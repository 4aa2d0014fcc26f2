import Mathlib.Data.List.Induction
import Playbook.Proofs.StoredKeys

/-!
# Lines of properties files

A line of a properties file is blank, a comment, an entry or malformed.  Reading stops at the first
malformed line.  Entries may be written with either separator and with blanks at four places; what
reading gives back does not depend on any of them, and separators and comment marks inside of a
value belong to the value.
-/

namespace Playbook

namespace Ordered

variable {α β : Type} [BEq α] [LawfulBEq α]

/-- The keys of the map that entries build, each at its first place. -/
theorem keys_ofEntries (entries : List (α × β)) :
    (ofEntries entries).map Prod.fst = (entries.map Prod.fst).eraseDups := by
  induction entries using List.reverseRecOn with
  | nil => rfl
  | append_singleton entries entry ih =>
      have last : ofEntries (entries ++ [entry]) = put entry.1 entry.2 (ofEntries entries) := by
        simp [ofEntries, putAll]
      have present : contains entry.1 (ofEntries entries) = true ↔
          entry.1 ∈ entries.map Prod.fst := by
        rw [contains_eq_isSome_find?, isSome_find?_iff, ofEntries, mem_keys_putAll]
        simp
      rw [last, keys_put, ih, List.map_append, List.map_singleton, List.eraseDups_append]
      by_cases member : entry.1 ∈ entries.map Prod.fst
      · rw [if_pos (present.mpr member)]
        simp [List.removeAll, member]
      · rw [if_neg (mt present.mp member)]
        simp [List.removeAll, member, List.eraseDups_cons]

/-- Of several entries with a key, the last one counts. -/
theorem mem_ofEntries_iff {entries : List (α × β)} {entry : α × β} :
    entry ∈ ofEntries entries ↔ IsLast entries (fun other => other.1 = entry.1) entry := by
  let gives (other : α × β) : Option β := if other.1 == entry.1 then some other.2 else none
  have overwrites : ∀ (current : List (α × β)) (other : α × β),
      find? entry.1 (put other.1 other.2 current) = (gives other).or (find? entry.1 current) := by
    intro current other
    by_cases same : other.1 = entry.1
    · simp [gives, same]
    · simp [gives, same, find?_put_of_ne same]
  have given : ∀ other, (gives other).isSome = true ↔ other.1 = entry.1 := by
    intro other
    by_cases same : other.1 = entry.1 <;> simp [gives, same]
  have found : find? entry.1 (ofEntries entries) = some entry.2 ↔
      (∃ other, IsLast entries (fun other => other.1 = entry.1) other ∧
        gives other = some entry.2) ∨
      (∀ other ∈ entries, ¬other.1 = entry.1) ∧ find? entry.1 ([] : List (α × β)) = some entry.2 :=
    view_foldl_eq_some_iff (find? entry.1) overwrites given
  rw [← find?_eq_some_iff (nodup_keys_ofEntries entries), found, or_iff_left (by simp)]
  constructor
  · rintro ⟨other, last, text⟩
    obtain ⟨_, _, _, same, _⟩ := id last
    have whole : other = entry := Prod.ext same (by simpa [gives, same] using text)
    exact whole ▸ last
  · intro last
    exact ⟨entry, last, by simp [gives]⟩

end Ordered

namespace Properties

open Fallible

/-! ## Malformed lines -/

/-- A line that has something to say: trimmed, it is neither empty nor a comment. -/
def Speaks (line : List Char) : Prop :=
  ∃ c rest, Text.trim line = c :: rest ∧ c ≠ '#' ∧ c ≠ '!'

/-- What is wrong with a line, whichever number it has. -/
inductive Malformed (line : List Char) : (Nat → LineFault) → Prop where
  | noSeparator (speaks : Speaks line) (none : ∀ c ∈ Text.trim line, c ≠ '=' ∧ c ≠ ':') :
      Malformed line .noSeparator
  | invalidKey {before after : List Char} {separator : Char} (speaks : Speaks line)
      (split : Text.trim line = before ++ separator :: after)
      (separates : separator = '=' ∨ separator = ':') (first : ∀ c ∈ before, c ≠ '=' ∧ c ≠ ':')
      (invalid : ¬Name.IsKey (Text.trim before)) :
      Malformed line fun number => .invalidKey number (String.ofList (Text.trim before))

variable {line : List Char} {number : Nat}

theorem isSeparator_iff {c : Char} : isSeparator c = true ↔ c = '=' ∨ c = ':' := by
  simp [isSeparator]

theorem isSeparator_eq_false_iff {c : Char} : isSeparator c = false ↔ c ≠ '=' ∧ c ≠ ':' := by
  simp [isSeparator]

theorem isIgnored_eq_false_iff : isIgnored (Text.trim line) = false ↔ Speaks line := by
  unfold Speaks
  cases Text.trim line with
  | nil => simp [isIgnored]
  | cons c rest => simp [isIgnored]

theorem readLine_ignored (silent : ¬Speaks line) : readLine number line = .ok none := by
  unfold readLine
  exact if_pos (by simpa using mt isIgnored_eq_false_iff.mp silent)

theorem readLine_unseparated (speaks : Speaks line)
    (none : ∀ c ∈ Text.trim line, c ≠ '=' ∧ c ≠ ':') :
    readLine number line = .error (.noSeparator number) := by
  have nothing : (Text.trim line).dropWhile (fun c => !isSeparator c) = [] := by
    rw [List.dropWhile_eq_nil_iff]
    intro c member
    rw [isSeparator_eq_false_iff.mpr (none c member)]
    rfl
  unfold readLine
  dsimp only
  rw [isIgnored_eq_false_iff.mpr speaks, nothing]
  rfl

theorem readLine_separated {before after : List Char} {separator : Char} (speaks : Speaks line)
    (split : Text.trim line = before ++ separator :: after)
    (separates : separator = '=' ∨ separator = ':') (first : ∀ c ∈ before, c ≠ '=' ∧ c ≠ ':') :
    readLine number line =
      if (Name.matchPropertyKey? (Text.trim before)).isSome then
        .ok (some (String.ofList (Text.trim before), String.ofList (Text.trim after)))
      else .error (.invalidKey number (String.ofList (Text.trim before))) := by
  have inside : ∀ c ∈ before, (!isSeparator c) = true := by
    intro c member
    rw [isSeparator_eq_false_iff.mpr (first c member)]
    rfl
  have stop : ∀ c ∈ (separator :: after).head?, (!isSeparator c) = false := by
    intro c member
    cases member
    rw [isSeparator_iff.mpr separates]
    rfl
  unfold readLine
  dsimp only
  rw [isIgnored_eq_false_iff.mpr speaks, split, Text.dropWhile_append_of_stop inside stop,
    Text.takeWhile_append_of_stop inside stop]
  rfl

theorem readLine_eq_error_iff {fault : LineFault} : readLine number line = .error fault ↔
    ∃ flaw, Malformed line flaw ∧ fault = flaw number := by
  constructor
  · intro failed
    by_cases speaks : Speaks line
    · rcases none_or_first (fun c => c = '=' ∨ c = ':') (Text.trim line) with
        none | ⟨before, separator, after, split, first, separates⟩
      · have none := fun c member => not_or.mp (none c member)
        rw [readLine_unseparated speaks none] at failed
        cases failed
        exact ⟨_, .noSeparator speaks none, rfl⟩
      · have first := fun c member => not_or.mp (first c member)
        rw [readLine_separated speaks split separates first] at failed
        split at failed
        · cases failed
        · rename_i invalid
          cases failed
          rw [isSome_matchPropertyKey?_trim_iff] at invalid
          exact ⟨_, .invalidKey speaks split separates first invalid, rfl⟩
    · rw [readLine_ignored speaks] at failed
      cases failed
  · rintro ⟨flaw, malformed, rfl⟩
    cases malformed with
    | noSeparator speaks none => exact readLine_unseparated speaks none
    | invalidKey speaks split separates first invalid =>
        rw [readLine_separated speaks split separates first,
          if_neg (mt isSome_matchPropertyKey?_trim_iff.mp invalid)]

/-- Whether something is wrong with a line. -/
def IsMalformed (line : String) : Prop := ∃ flaw, Malformed line.toList flaw

theorem exists_readLine_of_wellFormed {line : String} (wellFormed : ¬IsMalformed line)
    (number : Nat) : ∃ entry, readLine number line.toList = .ok entry := by
  cases read : readLine number line.toList with
  | ok entry => exact ⟨entry, rfl⟩
  | error fault =>
      obtain ⟨flaw, malformed, _⟩ := readLine_eq_error_iff.mp read
      exact absurd ⟨flaw, malformed⟩ wellFormed

/-- Reading goes on behind well-formed lines. -/
theorem exists_readLinesFrom_append {earlier : List String}
    (wellFormed : ∀ line ∈ earlier, ¬IsMalformed line) (number : Nat) (layer : Layer)
    (rest : List String) : ∃ extended, readLinesFrom number layer (earlier ++ rest) =
      readLinesFrom (number + earlier.length) extended rest := by
  induction earlier generalizing number layer with
  | nil => exact ⟨layer, rfl⟩
  | cons line earlier ih =>
      obtain ⟨here, later⟩ := List.forall_mem_cons.mp wellFormed
      obtain ⟨entry, read⟩ := exists_readLine_of_wellFormed here number
      have behind : number + (line :: earlier).length = number + 1 + earlier.length := by
        rw [List.length_cons]
        omega
      rw [List.cons_append, readLinesFrom, read, ok_bind, behind]
      cases entry with
      | none => exact ih later (number + 1) layer
      | some entry => exact ih later (number + 1) (Ordered.put entry.1 entry.2 layer)

theorem exists_parse_of_wellFormed {lines : List String}
    (wellFormed : ∀ line ∈ lines, ¬IsMalformed line) (filename : Option String) :
    ∃ layer, parse filename lines = .ok layer := by
  obtain ⟨layer, goesOn⟩ := exists_readLinesFrom_append wellFormed 0 [] []
  rw [List.append_nil] at goesOn
  refine ⟨layer, ?_⟩
  rw [parse, readLines, goesOn]
  rfl

/-- Reading fails at the first malformed line. -/
theorem parse_of_first {earlier later : List String} {line : String} {flaw : Nat → LineFault}
    (wellFormed : ∀ line ∈ earlier, ¬IsMalformed line) (malformed : Malformed line.toList flaw)
    (filename : Option String) : parse filename (earlier ++ line :: later) =
      .error (.diagnostic ⟨.properties, (flaw earlier.length).message,
        some ⟨filename, some earlier.length, none, none, .nothing⟩⟩) := by
  obtain ⟨extended, goesOn⟩ := exists_readLinesFrom_append wellFormed 0 [] (line :: later)
  have fails : readLine earlier.length line.toList = .error (flaw earlier.length) :=
    readLine_eq_error_iff.mpr ⟨flaw, malformed, rfl⟩
  rw [parse, readLines, goesOn, readLinesFrom, Nat.zero_add, fails]
  cases malformed <;> rfl

/-! ## Written lines -/

/-- A key with its value, as lines can give them. -/
structure Entry where
  key : String
  value : String
  isKey : Name.IsKey key.toList
  uncommented : ∀ c ∈ key.toList.head?, c ≠ '#' ∧ c ≠ '!'
  trimmed : Text.Trimmed value.toList

/-- A character that separates keys from values. -/
structure Separator where
  char : Char
  separates : char = '=' ∨ char = ':'

/-- A character that comments begin with. -/
structure Mark where
  char : Char
  marks : char = '#' ∨ char = '!'

/-- A line as it may be written. -/
inductive Line where
  | blank (blanks : Text.Blanks)
  | comment (before : Text.Blanks) (mark : Mark) (text : List Char)
  | setting (before : Text.Blanks) (entry : Entry) (inner : Text.Blanks) (separator : Separator)
      (outer after : Text.Blanks)

namespace Line

/-- The text of a line. -/
def written : Line → String
  | blank blanks => String.ofList blanks.chars
  | comment before mark text => String.ofList (before.chars ++ mark.char :: text)
  | setting before entry inner separator outer after =>
      String.ofList (before.chars ++ (entry.key.toList ++ inner.chars ++
        separator.char :: (outer.chars ++ (entry.value.toList ++ after.chars))))

/-- What a line adds to the properties. -/
def entry? : Line → Option (String × String)
  | blank _ | comment _ _ _ => none
  | setting _ entry _ _ _ _ => some (entry.key, entry.value)

end Line

theorem Entry.trimmed_key (entry : Entry) : Text.Trimmed entry.key.toList :=
  .of_forall fun c member => (entry.isKey.2 c member).1

/-- The text from the key on, without blanks at the end: what is behind the separator has blanks
around the value, or only the value's own. -/
theorem Entry.exists_trim_written (entry : Entry) (before inner outer after : Text.Blanks)
    (separator : Separator) : ∃ tail,
      Text.trim (before.chars ++ (entry.key.toList ++ inner.chars ++
        separator.char :: (outer.chars ++ (entry.value.toList ++ after.chars)))) =
        entry.key.toList ++ inner.chars ++ separator.char :: tail ∧
      Text.trim tail = entry.value.toList := by
  have notBlank : Text.isBlank separator.char = false := by
    rcases separator.separates with equals | colon
    · rw [equals]
      decide
    · rw [colon]
      decide
  have char : Text.Trimmed [separator.char] := .of_forall (by simpa using notBlank)
  cases value : entry.value.toList with
  | nil =>
      have core : Text.Trimmed (entry.key.toList ++ (inner.chars ++ [separator.char])) :=
        entry.trimmed_key.append entry.isKey.1 (by simp) char inner.chars
      have blanks : ∀ c ∈ outer.chars ++ after.chars, Text.isBlank c = true :=
        List.forall_mem_append.mpr ⟨outer.blank, after.blank⟩
      refine ⟨[], ?_, rfl⟩
      have trims := core.trim_eq before ⟨_, blanks⟩
      simpa using trims
  | cons c rest =>
      have trimmed := entry.trimmed
      rw [value] at trimmed
      have core : Text.Trimmed (entry.key.toList ++
          ((inner.chars ++ separator.char :: outer.chars) ++ c :: rest)) :=
        entry.trimmed_key.append entry.isKey.1 (by simp) trimmed _
      refine ⟨outer.chars ++ c :: rest, ?_, ?_⟩
      · have trims := core.trim_eq before after
        simpa using trims
      · have alone := trimmed.trim_eq outer .none
        rwa [Text.Blanks.none, List.append_nil] at alone

theorem readLine_written (line : Line) (number : Nat) :
    readLine number line.written.toList = .ok line.entry? := by
  cases line with
  | blank blanks =>
      apply readLine_ignored
      rintro ⟨c, rest, speaks, _⟩
      have trimmed := Text.Trimmed.nil.trim_eq blanks .none
      simp_all [Line.written, Text.Blanks.none]
  | comment before mark text =>
      apply readLine_ignored
      rintro ⟨c, rest, speaks, notHash, notBang⟩
      obtain ⟨blanks, behind⟩ :=
        Text.exists_blanks_behind (Line.comment before mark text).written.toList
      have notBlank : ∀ c ∈ (mark.char :: text).head?, Text.isBlank c = false := by
        rintro c ⟨⟩
        rcases mark.marks with hash | bang
        · rw [hash]
          decide
        · rw [bang]
          decide
      rw [speaks, Line.written, String.toList_ofList,
        Text.dropWhile_append_of_stop before.blank notBlank] at behind
      obtain ⟨same, _⟩ := List.cons_eq_cons.mp behind
      rcases mark.marks with hash | bang
      · exact notHash (same.symm.trans hash)
      · exact notBang (same.symm.trans bang)
  | setting before entry inner separator outer after =>
      obtain ⟨tail, split, value⟩ := entry.exists_trim_written before inner outer after separator
      rw [← String.toList_ofList (l := before.chars ++ _)] at split
      obtain ⟨nonempty, chars⟩ := entry.isKey
      have speaks :
          Speaks (Line.setting before entry inner separator outer after).written.toList := by
        obtain ⟨c, rest, key⟩ := List.exists_cons_of_ne_nil nonempty
        have uncommented := entry.uncommented c (by simp [key])
        refine ⟨c, rest ++ inner.chars ++ separator.char :: tail, ?_, uncommented⟩
        rw [Line.written, split, key]
        rfl
      have unseparated : ∀ c ∈ entry.key.toList ++ inner.chars, c ≠ '=' ∧ c ≠ ':' := by
        apply List.forall_mem_append.mpr ⟨fun c member => (chars c member).2.2.2, ?_⟩
        intro c member
        have blank := inner.blank c member
        constructor <;> rintro rfl <;> cases blank
      have key : Text.trim (entry.key.toList ++ inner.chars) = entry.key.toList :=
        entry.trimmed_key.trim_eq .none inner
      rw [readLine_separated speaks split separator.separates unseparated, key, value,
        if_pos (Name.isSome_matchPropertyKey?_iff.mpr ⟨_, entry.isKey, .inl rfl⟩),
        String.ofList_toList, String.ofList_toList]
      rfl

theorem readLinesFrom_written (lines : List Line) (number : Nat) (layer : Layer) :
    readLinesFrom number layer (lines.map Line.written) =
      .ok (Ordered.putAll layer (lines.filterMap Line.entry?)) := by
  induction lines generalizing number layer with
  | nil => rfl
  | cons line rest ih =>
      rw [List.map_cons, readLinesFrom, readLine_written, ok_bind]
      cases given : line.entry? with
      | none => rw [List.filterMap_cons_none given, ih]
      | some entry => rw [List.filterMap_cons_some given, Ordered.putAll_cons, ← ih (number + 1)]

/-- Reading properties fails if and only if a line is malformed, at the first such line; lines as
they may be written give a map of their entries, where every key has its first place and its last
value. -/
theorem parse_exact (filename : Option String) :
    (∀ lines, (∃ failure, parse filename lines = .error failure) ↔
      ∃ line ∈ lines, IsMalformed line) ∧
    (∀ lines failure, parse filename lines = .error failure ↔ ∃ earlier line later flaw,
      lines = earlier ++ line :: later ∧ (∀ other ∈ earlier, ¬IsMalformed other) ∧
      Malformed line.toList flaw ∧
      failure = .diagnostic ⟨.properties, (flaw earlier.length).message,
        some ⟨filename, some earlier.length, none, none, .nothing⟩⟩) ∧
    ∀ lines : List Line, ∃ layer, parse filename (lines.map Line.written) = .ok layer ∧
      layer.map Prod.fst = ((lines.filterMap Line.entry?).map Prod.fst).eraseDups ∧
      ∀ entry, entry ∈ layer ↔
        IsLast (lines.filterMap Line.entry?) (fun other => other.1 = entry.1) entry := by
  refine ⟨?fails, ?first, ?written⟩
  case fails =>
    intro lines
    rcases none_or_first IsMalformed lines with none | ⟨earlier, line, later, rfl, before, flaw,
      malformed⟩
    · obtain ⟨layer, read⟩ := exists_parse_of_wellFormed none filename
      apply iff_of_false
      · rw [read]
        rintro ⟨failure, ⟨⟩⟩
      · rintro ⟨line, member, malformed⟩
        exact none line member malformed
    · apply iff_of_true
      · exact ⟨_, parse_of_first before malformed filename⟩
      · exact ⟨line, by simp, flaw, malformed⟩
  case first =>
    intro lines failure
    constructor
    · intro failed
      rcases none_or_first IsMalformed lines with none | ⟨earlier, line, later, rfl, before, flaw,
        malformed⟩
      · obtain ⟨layer, read⟩ := exists_parse_of_wellFormed none filename
        cases read.symm.trans failed
      · cases (parse_of_first before malformed filename).symm.trans failed
        exact ⟨earlier, line, later, flaw, rfl, before, malformed, rfl⟩
    · rintro ⟨earlier, line, later, flaw, rfl, before, malformed, rfl⟩
      exact parse_of_first before malformed filename
  case written =>
    intro lines
    refine ⟨Ordered.ofEntries (lines.filterMap Line.entry?), ?_, Ordered.keys_ofEntries _,
      fun entry => Ordered.mem_ofEntries_iff⟩
    rw [parse, readLines, readLinesFrom_written]
    rfl

end Properties

end Playbook
