import Playbook.Proofs.JsonTokens

/-!
# Reading by the grammar of JSON

The reader answers by the grammar: it reads a text as a value if and only if the text spells that
value with integers within the limit of digits, and it fails on an integer beyond the limit if and
only if the text is cut off there.  That it answers nothing else goes by induction on its fuel; that
it answers so on all these texts goes by induction on how the grammar spells them.
-/

namespace Playbook.Json

open Text Fallible

/-! ## Words and numbers -/

/-- A text that begins with a digit. -/
def BeginsWithDigit (cs : List Char) : Prop := ∃ c others, cs = c :: others ∧ isAsciiDigit c = true

/-- A text whose first character is neither skipped in front of a value nor the end of a list or of
an object. -/
def Begins (cs : List Char) : Prop :=
  ∃ c others, cs = c :: others ∧ isSpace c = false ∧ c ≠ ']' ∧ c ≠ '\x7d' ∧ c ≠ Char.ofNat 0xFEFF

theorem BeginsWithDigit.append {cs : List Char} (begins : BeginsWithDigit cs) (rest : List Char) :
    BeginsWithDigit (cs ++ rest) := by
  obtain ⟨c, others, rfl, digit⟩ := begins
  exact ⟨c, others ++ rest, rfl, digit⟩

theorem Begins.append {cs : List Char} (begins : Begins cs) (rest : List Char) :
    Begins (cs ++ rest) := by
  obtain ⟨c, others, rfl, first⟩ := begins
  exact ⟨c, others ++ rest, rfl, first⟩

theorem BeginsWithDigit.begins {cs : List Char} (begins : BeginsWithDigit cs) : Begins cs := by
  obtain ⟨c, others, rfl, digit⟩ := begins
  refine ⟨c, others, rfl, ?space, ?_⟩
  case space =>
    cases space : isSpace c with
    | false => rfl
    | true =>
        simp only [isSpace, Bool.or_eq_true, beq_iff_eq] at space
        rcases space with ((rfl | rfl) | rfl) | rfl <;> cases digit
  refine ⟨?_, ?_, ?_⟩
  all_goals
    intro same
    subst same
    cases digit

theorem Begins.skipSpace_append {cs before : List Char} (begins : Begins cs)
    (spaces : AreSpaces before) : skipSpace (before ++ cs) = cs := by
  apply Json.skipSpace_append spaces
  obtain ⟨c, others, rfl, notSpace, _⟩ := begins
  rintro _ ⟨⟩
  exact notSpace

theorem IsDigits.beginsWithDigit {cs : List Char} (isDigits : IsDigits cs) :
    BeginsWithDigit cs := by
  obtain ⟨c, others, rfl⟩ := List.exists_cons_of_ne_nil isDigits.nonempty
  exact ⟨c, others, rfl, isDigits.digits c List.mem_cons_self⟩

theorem SpellsMagnitude.beginsWithDigit {allowed : Nat → Prop} {negative : Bool} {v : Value}
    {cs : List Char} (spells : SpellsMagnitude allowed negative v cs) : BeginsWithDigit cs := by
  cases spells with
  | integer isWhole _ => exact isWhole.beginsWithDigit
  | double isWhole _ _ _ => exact isWhole.beginsWithDigit.append _

theorem IntegerCutOff.beginsWithDigit {allowed : Nat → Prop} {digits : Nat} {cs : List Char}
    (cutOff : IntegerCutOff allowed digits cs) : BeginsWithDigit cs := by
  obtain ⟨isWhole, _, _⟩ := cutOff
  exact isWhole.beginsWithDigit.append _

section Words

variable {cs : List Char}

theorem answers_readWord (cs : List Char) :
    Answers (Spells InLimit) (CutOff InLimit) cs (readWord cs) := by
  unfold readWord
  split
  · exact ⟨_, .word .null, rfl⟩
  · exact ⟨_, .word .true, rfl⟩
  · exact ⟨_, .word .false, rfl⟩
  · exact ⟨_, .word .nan, rfl⟩
  · exact ⟨_, .word .infinity, rfl⟩
  · exact ⟨_, .word .negativeInfinity, rfl⟩
  · rename_i magnitude _
    exact (answers_readMagnitude true magnitude).behind ['-'] (fun _ _ spells => .negative spells)
      fun _ cutOff => .negative cutOff
  · exact (answers_readMagnitude false cs).behind [] (fun _ _ spells => .number spells)
      fun _ cutOff => .number cutOff

theorem readWord_of_digit (begins : BeginsWithDigit cs) : readWord cs = readMagnitude false cs := by
  obtain ⟨c, others, rfl, digit⟩ := begins
  unfold readWord
  split <;> rename_i same
  case h_8 => rfl
  all_goals
    cases same
    cases digit

theorem readWord_of_minus (begins : BeginsWithDigit cs) :
    readWord ('-' :: cs) = readMagnitude true cs := by
  obtain ⟨c, others, rfl, digit⟩ := begins
  rw [readWord]
  intro others same
  cases same
  cases digit

end Words

/-! ## Lists and objects -/

section Parts

variable {fuel : Nat} {cs before behind rest : List Char}

theorem readValue_word {c : Char} (notText : c ≠ '"') (notList : c ≠ '[') (notMap : c ≠ '\x7b') :
    readValue (fuel + 1) (c :: cs) = readWord (c :: cs) := by
  rw [readValue]
  all_goals
    intro others same
    cases same
    contradiction

theorem readValue_of_digit (begins : BeginsWithDigit cs) :
    readValue (fuel + 1) cs = readMagnitude false cs := by
  rw [← readWord_of_digit begins]
  obtain ⟨c, others, rfl, digit⟩ := begins
  apply readValue_word
  all_goals
    intro same
    subst same
    cases digit

theorem readValue_of_minus (begins : BeginsWithDigit cs) :
    readValue (fuel + 1) ('-' :: cs) = readMagnitude true cs := by
  rw [← readWord_of_minus begins]
  exact readValue_word (by decide) (by decide) (by decide)

theorem readValue_list (spaces : AreSpaces before) (begins : Begins cs) :
    readValue (fuel + 1) ('[' :: (before ++ cs)) =
      (do
        let (items, after) ← readItems fuel cs
        return (.list items, after)) := by
  rw [readValue, begins.skipSpace_append spaces]
  obtain ⟨c, others, rfl, _, notClosing, _⟩ := begins
  split
  · rename_i same
    cases same
    exact absurd rfl notClosing
  · rfl

theorem readValue_map (spaces : AreSpaces before) (begins : Begins cs) :
    readValue (fuel + 1) ('\x7b' :: (before ++ cs)) =
      (do
        let (members, after) ← readEntries fuel cs
        return (.map (Ordered.ofEntries members), after)) := by
  rw [readValue, begins.skipSpace_append spaces]
  obtain ⟨c, others, rfl, _, _, notClosing, _⟩ := begins
  split
  · rename_i same
    cases same
    exact absurd rfl notClosing
  · rfl

theorem skipSpace_closing {c : Char} (spaces : AreSpaces behind) (notSpace : isSpace c = false)
    (rest : List Char) : skipSpace (behind ++ c :: rest) = c :: rest := by
  apply skipSpace_append spaces
  rintro _ ⟨⟩
  exact notSpace

theorem readItems_error {fault : ReadFault} (read : readValue fuel cs = .error fault) :
    readItems (fuel + 1) cs = .error fault := by
  rw [readItems, read]
  rfl

theorem readItems_last {v : Value} (spaces : AreSpaces behind)
    (read : readValue fuel cs = .ok (v, behind ++ ']' :: rest)) :
    readItems (fuel + 1) cs = .ok ([v], rest) := by
  rw [readItems, read]
  dsimp only [bind, Except.bind]
  rw [skipSpace_closing spaces rfl]
  rfl

theorem readItems_more {v : Value} {comma : List Char} (isComma : IsComma comma)
    (begins : Begins rest) (read : readValue fuel cs = .ok (v, comma ++ rest)) :
    readItems (fuel + 1) cs =
      (do
        let (items, after) ← readItems fuel rest
        return (v :: items, after)) := by
  obtain ⟨behindSpaces, beforeSpaces⟩ := isComma
  rw [List.append_assoc] at read
  rw [readItems, read]
  dsimp only [bind, Except.bind]
  rw [List.cons_append, skipSpace_closing behindSpaces rfl]
  simp only [begins.skipSpace_append beforeSpaces]

/-- Reading on behind the value of a member. -/
def readBehindMember (fuel : Nat) (name : String) (member : Value × List Char) :
    Except ReadFault (List (Value × Value) × List Char) :=
  match skipSpace member.2 with
  | '\x7d' :: rest => return ([(.text name, member.1)], rest)
  | ',' :: rest => do
      let (entries, after) ← readEntries fuel (skipSpace rest)
      return ((.text name, member.1) :: entries, after)
  | _ => throw .commaExpected

section Members

variable {name : String} {key : List Char} (spelled : SpellsKey name key) (begins : Begins cs)

include spelled begins

theorem readEntries_key :
    readEntries (fuel + 1) (key ++ cs) = readValue fuel cs >>= readBehindMember fuel name := by
  obtain ⟨spells, behindSpaces, beforeSpaces⟩ := spelled
  rename_i text behind before
  obtain ⟨inside, rfl, read⟩ := readString_of_spells spells (behind ++ ':' :: (before ++ cs))
  have layout : '"' :: inside ++ (behind ++ ':' :: before) ++ cs =
      '"' :: (inside ++ (behind ++ ':' :: (before ++ cs))) := by simp
  rw [layout, readEntries, read]
  dsimp only [bind, Except.bind]
  rw [skipSpace_closing behindSpaces rfl]
  simp only [begins.skipSpace_append beforeSpaces]
  rfl

theorem readEntries_error {fault : ReadFault} (read : readValue fuel cs = .error fault) :
    readEntries (fuel + 1) (key ++ cs) = .error fault := by
  rw [readEntries_key spelled begins, read]
  rfl

theorem readEntries_last {v : Value} (spaces : AreSpaces behind)
    (read : readValue fuel cs = .ok (v, behind ++ '\x7d' :: rest)) :
    readEntries (fuel + 1) (key ++ cs) = .ok ([(.text name, v)], rest) := by
  rw [readEntries_key spelled begins, read, ok_bind, readBehindMember]
  dsimp only
  rw [skipSpace_closing spaces rfl]
  rfl

theorem readEntries_more {v : Value} {comma : List Char} (isComma : IsComma comma)
    (beginsBehind : Begins rest) (read : readValue fuel cs = .ok (v, comma ++ rest)) :
    readEntries (fuel + 1) (key ++ cs) =
      (do
        let (entries, after) ← readEntries fuel rest
        return ((.text name, v) :: entries, after)) := by
  obtain ⟨behindSpaces, beforeSpaces⟩ := isComma
  rw [List.append_assoc] at read
  rw [readEntries_key spelled begins, read, ok_bind, readBehindMember]
  dsimp only
  rw [List.cons_append, skipSpace_closing behindSpaces rfl]
  simp only [beginsBehind.skipSpace_append beforeSpaces]

end Members

end Parts

/-! ## Reading by the grammar -/

/-- The items of a list up to the bracket that closes it. -/
def SpellsItemsTo (items : List Value) (front : List Char) : Prop :=
  ∃ inside, SpellsItems InLimit items inside ∧ front = inside ++ [']']

/-- The members of an object up to the brace that closes it. -/
def SpellsMembersTo (members : List (Value × Value)) (front : List Char) : Prop :=
  ∃ inside, SpellsMembers InLimit members inside ∧ front = inside ++ ['\x7d']

structure ReadsByGrammar (fuel : Nat) : Prop where
  value : ∀ cs, Answers (Spells InLimit) (CutOff InLimit) cs (readValue fuel cs)
  items : ∀ cs, Answers SpellsItemsTo (ItemsCutOff InLimit) cs (readItems fuel cs)
  entries : ∀ cs, Answers SpellsMembersTo (MembersCutOff InLimit) cs (readEntries fuel cs)

theorem ReadsByGrammar.zero : ReadsByGrammar 0 where
  value _ := trivial
  items _ := trivial
  entries _ := trivial

theorem ReadsByGrammar.succ {fuel : Nat} (reads : ReadsByGrammar fuel) :
    ReadsByGrammar (fuel + 1) where
  value cs := by
    unfold readValue
    split
    · contradiction
    · rename_i rest _
      apply (answers_readString rest).bind fun _ never => never.elim
      intro s front after spells same
      exact ⟨'"' :: front, .text spells, congrArg ('"' :: ·) same⟩
    · rename_i rest less
      cases less
      obtain ⟨before, behind, spaces, rfl, skipped⟩ := exists_skipped rest
      rw [skipped]
      split
      · exact ⟨'[' :: (before ++ [']']), .emptyList spaces, by simp⟩
      · apply (reads.items behind).bind fun _ cutOff => .list spaces cutOff
        rintro items _ after ⟨inside, spells, rfl⟩ rfl
        exact ⟨_, .list spaces spells, by simp⟩
    · rename_i rest less
      cases less
      obtain ⟨before, behind, spaces, rfl, skipped⟩ := exists_skipped rest
      rw [skipped]
      split
      · exact ⟨'\x7b' :: (before ++ ['\x7d']), .emptyMap spaces, by simp⟩
      · apply (reads.entries behind).bind fun _ cutOff => .map spaces cutOff
        rintro members _ after ⟨inside, spells, rfl⟩ rfl
        exact ⟨_, .map spaces spells, by simp⟩
    · exact answers_readWord _
  items cs := by
    unfold readItems
    apply (reads.value cs).bind fun _ cutOff => .here cutOff
    rintro v front after spells rfl
    dsimp only
    obtain ⟨behind, closing, behindSpaces, rfl, skipped⟩ := exists_skipped after
    rw [skipped]
    split
    · exact ⟨_, ⟨_, .last spells behindSpaces, rfl⟩, by simp⟩
    · rename_i rest
      obtain ⟨before, later, beforeSpaces, rfl, skipped⟩ := exists_skipped rest
      rw [skipped]
      have isComma := IsComma.comma behindSpaces beforeSpaces
      apply (reads.items later).bind
      · intro digits cutOff
        simpa using ItemsCutOff.later spells isComma cutOff
      · rintro items _ rest ⟨inside, others, rfl⟩ rfl
        exact ⟨_, ⟨_, .more spells isComma others, rfl⟩, by simp⟩
    · trivial
  entries cs := by
    unfold readEntries
    split
    · contradiction
    · rename_i cs less
      cases less
      apply (answers_readString cs).bind fun _ never => never.elim
      rintro name text afterName spelledText rfl
      dsimp only
      obtain ⟨behind, colon, behindSpaces, rfl, atColon⟩ := exists_skipped afterName
      rw [atColon]
      split
      · rename_i body
        obtain ⟨before, value, beforeSpaces, rfl, atValue⟩ := exists_skipped body
        rw [atValue]
        have key := SpellsKey.colon spelledText behindSpaces beforeSpaces
        apply (reads.value value).bind
        · intro digits cutOff
          simpa using MembersCutOff.here key cutOff
        rintro v front after spells rfl
        dsimp only
        obtain ⟨behind, closing, behindSpaces, rfl, atClosing⟩ := exists_skipped after
        rw [atClosing]
        split
        · exact ⟨_, ⟨_, .last key spells behindSpaces, rfl⟩, by simp⟩
        · rename_i rest
          obtain ⟨before, later, beforeSpaces, rfl, atNext⟩ := exists_skipped rest
          rw [atNext]
          have isComma := IsComma.comma behindSpaces beforeSpaces
          apply (reads.entries later).bind
          · intro digits cutOff
            simpa using MembersCutOff.later key spells isComma cutOff
          · rintro members _ rest ⟨inside, others, rfl⟩ rfl
            exact ⟨_, ⟨_, .more key spells isComma others, rfl⟩, by simp⟩
        · trivial
      · trivial
    · trivial

theorem readsByGrammar (fuel : Nat) : ReadsByGrammar fuel := by
  induction fuel with
  | zero => exact .zero
  | succ _ ih => exact ih.succ

/-! ## Everything in the grammar is read -/

section

variable {allowed : Nat → Prop} {cs : List Char}

theorem SpellsWord.begins {v : Value} (spells : SpellsWord v cs) : Begins cs := by
  cases spells
  all_goals exact ⟨_, _, rfl, by decide, by decide, by decide, by decide⟩

theorem SpellsKey.begins {name : String} (spells : SpellsKey name cs) : Begins cs := by
  obtain ⟨⟨_⟩, _, _⟩ := spells
  exact ⟨'"', _, rfl, by decide, by decide, by decide, by decide⟩

theorem Spells.begins {v : Value} (spells : Spells allowed v cs) : Begins cs := by
  cases spells with
  | word spelled => exact spelled.begins
  | number spelled => exact spelled.beginsWithDigit.begins
  | text spelled =>
      obtain ⟨_⟩ := spelled
      exact ⟨'"', _, rfl, by decide, by decide, by decide, by decide⟩
  | _ => exact ⟨_, _, rfl, by decide, by decide, by decide, by decide⟩

theorem SpellsItems.begins {items : List Value} (spells : SpellsItems allowed items cs) :
    Begins cs := by
  cases spells with
  | last spelled _ => exact spelled.begins.append _
  | more spelled _ _ => exact spelled.begins.append _

theorem SpellsMembers.begins {members : List (Value × Value)}
    (spells : SpellsMembers allowed members cs) : Begins cs := by
  cases spells with
  | last key _ _ => exact key.begins.append _
  | more key _ _ _ => exact key.begins.append _

theorem CutOff.begins {digits : Nat} (cutOff : CutOff allowed digits cs) : Begins cs := by
  cases cutOff with
  | number cutOff => exact cutOff.beginsWithDigit.begins
  | _ => exact ⟨_, _, rfl, by decide, by decide, by decide, by decide⟩

theorem ItemsCutOff.begins {digits : Nat} (cutOff : ItemsCutOff allowed digits cs) : Begins cs := by
  cases cutOff with
  | here cutOff => exact cutOff.begins
  | later spelled _ _ => exact spelled.begins.append _

theorem MembersCutOff.begins {digits : Nat} (cutOff : MembersCutOff allowed digits cs) :
    Begins cs := by
  cases cutOff with
  | here key _ => exact key.begins.append _
  | later key _ _ _ => exact key.begins.append _

end

theorem readValue_of_word {v : Value} {cs : List Char} (spells : SpellsWord v cs)
    (rest : List Char) (fuel : Nat) : readValue (fuel + 1) (cs ++ rest) = .ok (v, rest) := by
  cases spells <;> rfl

mutual

/-- Whatever the grammar spells is read, if there is fuel for its characters. -/
theorem readValue_of_spells {v : Value} {cs : List Char} (spells : Spells InLimit v cs)
    {rest : List Char} (ends : EndsNumber rest) {fuel : Nat} (enough : 2 * cs.length ≤ fuel) :
    readValue fuel (cs ++ rest) = .ok (v, rest) := by
  -- A list takes one unit of fuel for itself and one for each item in front of the rest, so two
  -- units for each character suffice.
  obtain ⟨c, others, same, _⟩ := spells.begins
  obtain ⟨fuel, rfl⟩ : ∃ less, fuel = less + 1 := by
    rw [same, List.length_cons] at enough
    exact ⟨fuel - 1, by omega⟩
  match spells with
  | .word spelled => exact readValue_of_word spelled rest fuel
  | .number spelled =>
      rw [readValue_of_digit (spelled.beginsWithDigit.append rest)]
      exact readMagnitude_of_spells spelled ends
  | .negative spelled =>
      rw [List.cons_append, readValue_of_minus (spelled.beginsWithDigit.append rest)]
      exact readMagnitude_of_spells spelled ends
  | .text spelled =>
      obtain ⟨inside, rfl, read⟩ := readString_of_spells spelled rest
      rw [List.cons_append, readValue, read]
      rfl
  | .emptyList spaces =>
      rw [List.cons_append, List.append_assoc, List.singleton_append, readValue,
        skipSpace_closing spaces rfl]
      rfl
  | @Spells.list _ items before inside spaces spelled =>
      have length : 2 * inside.length + 1 ≤ fuel := by
        simp only [List.length_cons, List.length_append] at enough
        omega
      have read := readItems_of_spells spelled rest length
      have layout : '[' :: (before ++ (inside ++ [']'])) ++ rest =
        '[' :: (before ++ (inside ++ ']' :: rest)) := by simp
      rw [layout, readValue_list spaces (spelled.begins.append _), read]
      rfl
  | .emptyMap spaces =>
      rw [List.cons_append, List.append_assoc, List.singleton_append, readValue,
        skipSpace_closing spaces rfl]
      rfl
  | @Spells.map _ members before inside spaces spelled =>
      have length : 2 * inside.length + 1 ≤ fuel := by
        simp only [List.length_cons, List.length_append] at enough
        omega
      have read := readEntries_of_spells spelled rest length
      have layout : '\x7b' :: (before ++ (inside ++ ['\x7d'])) ++ rest =
        '\x7b' :: (before ++ (inside ++ '\x7d' :: rest)) := by simp
      rw [layout, readValue_map spaces (spelled.begins.append _), read]
      rfl

theorem readItems_of_spells {items : List Value} {cs : List Char}
    (spells : SpellsItems InLimit items cs) (rest : List Char) {fuel : Nat}
    (enough : 2 * cs.length + 1 ≤ fuel) :
    readItems fuel (cs ++ ']' :: rest) = .ok (items, rest) := by
  obtain ⟨fuel, rfl⟩ : ∃ less, fuel = less + 1 := ⟨fuel - 1, by omega⟩
  match spells with
  | @SpellsItems.last _ v front behind spelled spaces =>
      have ends : EndsNumber (behind ++ ']' :: rest) :=
        endsNumber_of_delimits (delimited_append spaces (by simp [Delimits]))
      have length : 2 * front.length ≤ fuel := by
        simp only [List.length_append] at enough
        omega
      have read := readValue_of_spells spelled ends length
      rw [List.append_assoc]
      exact readItems_last spaces read
  | @SpellsItems.more _ v others front comma later spelled isComma more =>
      have ends := endsNumber_of_delimits (isComma.delimited (later ++ ']' :: rest))
      have separated := isComma.length_pos
      have lengths : 2 * front.length ≤ fuel ∧ 2 * later.length + 1 ≤ fuel := by
        simp only [List.length_append] at enough
        omega
      have read := readValue_of_spells spelled ends lengths.1
      have readMore := readItems_of_spells more rest lengths.2
      rw [List.append_assoc, List.append_assoc, readItems_more isComma (more.begins.append _) read,
        readMore]
      rfl

theorem readEntries_of_spells {members : List (Value × Value)} {cs : List Char}
    (spells : SpellsMembers InLimit members cs) (rest : List Char) {fuel : Nat}
    (enough : 2 * cs.length + 1 ≤ fuel) :
    readEntries fuel (cs ++ '\x7d' :: rest) = .ok (members, rest) := by
  obtain ⟨fuel, rfl⟩ : ∃ less, fuel = less + 1 := ⟨fuel - 1, by omega⟩
  match spells with
  | @SpellsMembers.last _ name v key front behind spelledKey spelled spaces =>
      have ends : EndsNumber (behind ++ '\x7d' :: rest) :=
        endsNumber_of_delimits (delimited_append spaces (by simp [Delimits]))
      have length : 2 * front.length ≤ fuel := by
        simp only [List.length_append] at enough
        omega
      have read := readValue_of_spells spelled ends length
      rw [List.append_assoc, List.append_assoc]
      exact readEntries_last spelledKey (spelled.begins.append _) spaces read
  | @SpellsMembers.more _ name v others key front comma later spelledKey spelled isComma more =>
      have ends := endsNumber_of_delimits (isComma.delimited (later ++ '\x7d' :: rest))
      have separated := isComma.length_pos
      have lengths : 2 * front.length ≤ fuel ∧ 2 * later.length + 1 ≤ fuel := by
        simp only [List.length_append] at enough
        omega
      have read := readValue_of_spells spelled ends lengths.1
      have readMore := readEntries_of_spells more rest lengths.2
      rw [List.append_assoc, List.append_assoc, List.append_assoc,
        readEntries_more spelledKey (spelled.begins.append _) isComma (more.begins.append _) read,
        readMore]
      rfl

end

/-! ## Everything that is cut off fails -/

mutual

theorem readValue_of_cutOff {digits : Nat} {cs : List Char} (cutOff : CutOff InLimit digits cs)
    {fuel : Nat} (enough : 2 * cs.length ≤ fuel) :
    readValue fuel cs = .error (.integerTooLong digits) := by
  obtain ⟨c, others, same, _⟩ := cutOff.begins
  obtain ⟨fuel, rfl⟩ : ∃ less, fuel = less + 1 := by
    rw [same, List.length_cons] at enough
    exact ⟨fuel - 1, by omega⟩
  match cutOff with
  | .number cutOff =>
      rw [readValue_of_digit cutOff.beginsWithDigit]
      exact readMagnitude_of_cutOff cutOff false
  | .negative cutOff =>
      rw [readValue_of_minus cutOff.beginsWithDigit]
      exact readMagnitude_of_cutOff cutOff true
  | @CutOff.list _ _ before inside spaces cutOff =>
      have length : 2 * inside.length + 1 ≤ fuel := by
        simp only [List.length_cons, List.length_append] at enough
        omega
      rw [readValue_list spaces cutOff.begins, readItems_of_cutOff cutOff length]
      rfl
  | @CutOff.map _ _ before inside spaces cutOff =>
      have length : 2 * inside.length + 1 ≤ fuel := by
        simp only [List.length_cons, List.length_append] at enough
        omega
      rw [readValue_map spaces cutOff.begins, readEntries_of_cutOff cutOff length]
      rfl

theorem readItems_of_cutOff {digits : Nat} {cs : List Char}
    (cutOff : ItemsCutOff InLimit digits cs) {fuel : Nat} (enough : 2 * cs.length + 1 ≤ fuel) :
    readItems fuel cs = .error (.integerTooLong digits) := by
  obtain ⟨fuel, rfl⟩ : ∃ less, fuel = less + 1 := ⟨fuel - 1, by omega⟩
  match cutOff with
  | .here cutOff => exact readItems_error (readValue_of_cutOff cutOff (by omega))
  | @ItemsCutOff.later _ _ v front comma rest spelled isComma cutOff =>
      have ends := endsNumber_of_delimits (isComma.delimited rest)
      have separated := isComma.length_pos
      have lengths : 2 * front.length ≤ fuel ∧ 2 * rest.length + 1 ≤ fuel := by
        simp only [List.length_append] at enough
        omega
      have read := readValue_of_spells spelled ends lengths.1
      have fails := readItems_of_cutOff cutOff lengths.2
      rw [readItems_more isComma cutOff.begins read, fails]
      rfl

theorem readEntries_of_cutOff {digits : Nat} {cs : List Char}
    (cutOff : MembersCutOff InLimit digits cs) {fuel : Nat} (enough : 2 * cs.length + 1 ≤ fuel) :
    readEntries fuel cs = .error (.integerTooLong digits) := by
  obtain ⟨fuel, rfl⟩ : ∃ less, fuel = less + 1 := ⟨fuel - 1, by omega⟩
  match cutOff with
  | @MembersCutOff.here _ _ name key inside spelledKey cutOff =>
      have length : 2 * inside.length ≤ fuel := by
        simp only [List.length_append] at enough
        omega
      exact readEntries_error spelledKey cutOff.begins (readValue_of_cutOff cutOff length)
  | @MembersCutOff.later _ _ name v key front comma rest spelledKey spelled isComma cutOff =>
      have ends := endsNumber_of_delimits (isComma.delimited rest)
      have separated := isComma.length_pos
      have lengths : 2 * front.length ≤ fuel ∧ 2 * rest.length + 1 ≤ fuel := by
        simp only [List.length_append] at enough
        omega
      have read := readValue_of_spells spelled ends lengths.1
      have fails := readEntries_of_cutOff cutOff lengths.2
      rw [readEntries_more spelledKey (spelled.begins.append _) isComma cutOff.begins read, fails]
      rfl

end

/-! ## Whole texts -/

/-- Behind blanks, a text is cut off at an integer with that many digits. -/
inductive CutOffWhole : Nat → List Char → Prop where
  | behind {digits : Nat} {before cs : List Char} :
      AreSpaces before → CutOff InLimit digits cs → CutOffWhole digits (before ++ cs)

theorem not_marked_of_begins {before cs : List Char} (spaces : AreSpaces before)
    (begins : Begins cs) : (before ++ cs).head? ≠ some (Char.ofNat 0xFEFF) := by
  cases before with
  | nil =>
      obtain ⟨c, others, rfl, _, _, _, notMark⟩ := begins
      intro marked
      exact notMark (Option.some.inj marked)
  | cons space others =>
      intro marked
      have isSpace := spaces space List.mem_cons_self
      rw [Option.some.inj marked] at isSpace
      cases isSpace

theorem isEmpty_skipSpace_iff {cs : List Char} : (skipSpace cs).isEmpty = true ↔ AreSpaces cs := by
  constructor
  · intro empty
    obtain ⟨before, behind, spaces, rfl, skipped⟩ := exists_skipped cs
    rw [skipped, List.isEmpty_iff] at empty
    rw [empty, List.append_nil]
    exact spaces
  · intro spaces
    have skipped : skipSpace (cs ++ []) = [] := skipSpace_append spaces (by simp)
    rw [List.append_nil] at skipped
    rw [skipped]
    rfl

section

variable {s : String}

theorem read_of_begins {before cs : List Char} (same : s.toList = before ++ cs)
    (spaces : AreSpaces before) (begins : Begins cs) :
    read s =
      (do
        let (v, after) ← readValue (2 * (before ++ cs).length + 2) cs
        if (skipSpace after).isEmpty then return v else throw .extraData) := by
  unfold read readChars
  rw [same, if_neg (not_marked_of_begins spaces begins), begins.skipSpace_append spaces]

/-- Exactly the texts that the grammar spells are read, each as the value that it spells. -/
theorem read_eq_ok_iff {v : Value} : read s = .ok v ↔ SpellsWhole InLimit v s.toList := by
  constructor
  · intro success
    unfold read readChars at success
    split at success
    · contradiction
    obtain ⟨before, inside, beforeSpaces, same, skipped⟩ := exists_skipped s.toList
    obtain ⟨⟨found, after⟩, read, success⟩ := bind_eq_ok_iff.mp success
    have answers := (readsByGrammar (2 * s.toList.length + 2)).value (skipSpace s.toList)
    rw [read, skipped] at answers
    obtain ⟨front, spells, rfl⟩ := answers
    dsimp only at success
    split at success
    · rename_i blank
      cases success
      rw [same]
      exact .around beforeSpaces spells (isEmpty_skipSpace_iff.mp blank)
    · contradiction
  · generalize same : s.toList = cs
    rintro ⟨beforeSpaces, spells, behindSpaces⟩
    rw [read_of_begins same beforeSpaces (spells.begins.append _),
      readValue_of_spells spells behindSpaces.endsNumber (by simp; omega)]
    exact if_pos (isEmpty_skipSpace_iff.mpr behindSpaces)

/-- Reading fails on an integer exactly if the text is cut off at that integer. -/
theorem read_eq_tooLong_iff {digits : Nat} :
    read s = .error (.integerTooLong digits) ↔ CutOffWhole digits s.toList := by
  constructor
  · intro failure
    unfold read readChars at failure
    split at failure
    · cases failure
    obtain ⟨before, inside, beforeSpaces, same, skipped⟩ := exists_skipped s.toList
    rcases bind_eq_error_iff.mp failure with read | ⟨⟨found, after⟩, _, failure⟩
    · have answers := (readsByGrammar (2 * s.toList.length + 2)).value (skipSpace s.toList)
      rw [read, skipped] at answers
      rw [same]
      exact .behind beforeSpaces answers
    · dsimp only at failure
      split at failure
      all_goals cases failure
  · generalize same : s.toList = cs
    rintro ⟨spaces, cutOff⟩
    rw [read_of_begins same spaces cutOff.begins, readValue_of_cutOff cutOff (by simp; omega)]
    rfl

end

end Playbook.Json
