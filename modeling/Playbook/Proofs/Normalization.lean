import Playbook.Proofs.PlainData
import Playbook.Proofs.PropertyTexts
import Playbook.Proofs.ValueFaults

/-!
# Normalizing values

A value is normalized if all its parts are plain: its keys are texts, and its leaves are null or
scalars.  The result has the shape of the value with lists for its sequences of any kind, and where
the value holds no set, it has the same property text.  Otherwise the first part in document order
that is not plain is refused: an object as no value, and a key as no text, if it can be shown; a key
that holds an integer with too many digits can not.
-/

namespace Playbook

open Fallible

namespace Value

/-! ## Parts in document order -/

/-- A part of a value: a key of a mapping, or a value that is neither a sequence nor a mapping. -/
inductive Part where
  | key (key : Value)
  | leaf (v : Value)

mutual

/-- The parts of a value in document order, each key before the parts of its value. -/
def parts : Value → List Part
  | .list items | .tuple items | .set items => itemsParts items
  | .map entries => entriesParts entries
  | v => [.leaf v]

def itemsParts : List Value → List Part
  | [] => []
  | v :: rest => parts v ++ itemsParts rest

def entriesParts : List (Value × Value) → List Part
  | [] => []
  | (key, v) :: rest => .key key :: (parts v ++ entriesParts rest)

end

namespace Part

def IsPlain : Part → Prop
  | key k => ∃ s, k = .text s
  | leaf v => v = .null ∨ v.isScalar = true

/-- Whether all integers of a part are short enough to be shown. -/
def isShown : Part → Bool
  | key k => k.isShown
  | leaf v => v.isShown

/-- What a part that is not plain is refused with. -/
inductive Refused : Part → Fault → Prop where
  | key {k : Value} {shown : String} :
      k.text? = none → k.literal = .ok shown → Refused (key k) (.keyNotText shown)
  | unshown {k : Value} : k.text? = none → k.isShown = false → Refused (key k) .digitsWritten
  | leaf {kind shown : String} : Refused (leaf (.foreign kind shown)) (.notPlain kind shown)

theorem Refused.not_isPlain {part : Part} {fault : Fault} (refused : part.Refused fault) :
    ¬part.IsPlain := by
  cases refused with
  | key noText _ | unshown noText _ =>
      rintro ⟨s, rfl⟩
      cases noText
  | leaf =>
      rintro (same | scalar)
      · cases same
      · cases scalar

/-- A key that cannot be shown is refused as a text that is too long, anything else as of the wrong
type. -/
theorem Refused.label_eq_iff {part : Part} {fault : Fault} (refused : part.Refused fault) :
    fault.label = "TypeError" ↔ part.isShown = true := by
  cases refused with
  | key _ literal => exact iff_of_true rfl ((succeeds_literal_iff _).mp ⟨_, literal⟩)
  | unshown _ long =>
      apply iff_of_false (by decide)
      simp [isShown, long]
  | leaf => exact iff_of_true rfl rfl

/-- The first of some parts that is not plain is refused with that fault. -/
inductive FirstRefused : List Part → Fault → Prop where
  | here {part : Part} {rest : List Part} {fault : Fault} :
      part.Refused fault → FirstRefused (part :: rest) fault
  | later {part : Part} {rest : List Part} {fault : Fault} :
      part.IsPlain → FirstRefused rest fault → FirstRefused (part :: rest) fault

theorem firstRefused_append_iff {first others : List Part} {fault : Fault} :
    FirstRefused (first ++ others) fault ↔
      FirstRefused first fault ∨ (∀ part ∈ first, part.IsPlain) ∧ FirstRefused others fault := by
  induction first with
  | nil =>
      constructor
      · exact fun refused => .inr ⟨List.forall_mem_nil _, refused⟩
      · rintro (refused | ⟨_, refused⟩)
        · cases refused
        · exact refused
  | cons part rest ih =>
      constructor
      · intro refused
        cases refused with
        | here refused => exact .inl (.here refused)
        | later plain refused =>
            rcases ih.mp refused with refused | ⟨each, refused⟩
            · exact .inl (.later plain refused)
            · exact .inr ⟨List.forall_mem_cons.mpr ⟨plain, each⟩, refused⟩
      · rintro (refused | ⟨each, refused⟩)
        · cases refused with
          | here refused => exact .here refused
          | later plain refused => exact .later plain (ih.mpr (.inl refused))
        · obtain ⟨plain, each⟩ := List.forall_mem_cons.mp each
          exact .later plain (ih.mpr (.inr ⟨each, refused⟩))

theorem firstRefused_iff {parts : List Part} {fault : Fault} :
    FirstRefused parts fault ↔
      ∃ earlier part later, parts = earlier ++ part :: later ∧
        (∀ other ∈ earlier, other.IsPlain) ∧ part.Refused fault := by
  constructor
  · intro first
    induction first with
    | here refused => exact ⟨[], _, _, rfl, List.forall_mem_nil _, refused⟩
    | later plain _ ih =>
        obtain ⟨earlier, part, later, rfl, each, refused⟩ := ih
        exact ⟨_ :: earlier, part, later, rfl, List.forall_mem_cons.mpr ⟨plain, each⟩, refused⟩
  · rintro ⟨earlier, part, later, rfl, each, refused⟩
    exact firstRefused_append_iff.mpr (.inr ⟨each, .here refused⟩)

end Part

/-! ## What normalizing fails on -/

/-- A computation succeeds if all of some parts are plain, and otherwise it fails on the first of
them that is not. -/
structure Settles {α : Type} (parts : List Part) (computation : Except Fault α) : Prop where
  succeeds : Succeeds computation ↔ ∀ part ∈ parts, part.IsPlain
  fails : ∀ fault, computation = .error fault ↔ Part.FirstRefused parts fault

namespace Settles

variable {α β : Type} {parts others : List Part}

theorem ok (a : α) : Settles [] (.ok a) where
  succeeds := iff_of_true (succeeds_ok a) (List.forall_mem_nil _)
  fails fault := iff_of_false (by rintro ⟨⟩) (by rintro ⟨⟩)

theorem bind {first : Except Fault α} {following : α → Except Fault β}
    (settles : Settles parts first) (rest : ∀ a, Settles others (following a)) :
    Settles (parts ++ others) (first >>= following) where
  succeeds := by
    rw [List.forall_mem_append, ← settles.succeeds]
    apply succeeds_bind_iff_and
    intro a _
    exact (rest a).succeeds
  fails fault := by
    rw [bind_eq_error_iff, Part.firstRefused_append_iff, ← settles.succeeds, settles.fails]
    apply or_congr_right
    constructor
    · rintro ⟨a, success, failed⟩
      exact ⟨⟨a, success⟩, ((rest a).fails fault).mp failed⟩
    · rintro ⟨⟨a, success⟩, refused⟩
      exact ⟨a, success, ((rest a).fails fault).mpr refused⟩

theorem map {computation : Except Fault α} (settles : Settles parts computation) (f : α → β) :
    Settles parts (computation >>= fun a => pure (f a)) := by
  have both := settles.bind fun a => ok (f a)
  rwa [List.append_nil] at both

theorem behind {computation : Except Fault α} (settles : Settles parts computation) {part : Part}
    (plain : part.IsPlain) : Settles (part :: parts) computation where
  succeeds := by simp [plain, settles.succeeds]
  fails fault := by
    rw [settles.fails]
    constructor
    · exact .later plain
    · intro refused
      cases refused with
      | here refused => exact absurd plain refused.not_isPlain
      | later _ refused => exact refused

end Settles

/-- Nothing behind a part that is refused matters. -/
theorem settles_refused {α : Type} {part : Part} {rest : List Part} {fault : Fault}
    {computation : Except Fault α} (failed : computation = .error fault)
    (refused : ∀ other, part.Refused other ↔ other = fault) :
    Settles (part :: rest) computation := by
  subst failed
  have here := (refused fault).mpr rfl
  have notPlain := here.not_isPlain
  constructor
  · apply iff_of_false (not_succeeds_error fault)
    exact fun each => notPlain (each part List.mem_cons_self)
  · intro other
    constructor
    · rintro ⟨⟩
      exact .here here
    · intro first
      cases first with
      | here found => rw [(refused other).mp found]
      | later plain _ => exact absurd plain notPlain

theorem settles_key {key : Value} (noText : key.text? = none) (rest : List Part)
    {α : Type} : Settles (.key key :: rest)
      ((do throw (.keyNotText (← key.literal)) : Except Fault α)) := by
  cases literal : key.literal with
  | ok shown =>
      refine settles_refused rfl fun other => ⟨?_, ?_⟩
      · rintro (⟨_, same⟩ | ⟨_, long⟩)
        · rw [literal] at same
          cases same
          rfl
        · rw [(succeeds_literal_iff key).mp ⟨shown, literal⟩] at long
          cases long
      · rintro rfl
        exact .key noText literal
  | error fault =>
      obtain rfl := literal_eq_error key literal
      refine settles_refused rfl fun other => ⟨?_, ?_⟩
      · rintro (⟨_, same⟩ | _)
        · rw [literal] at same
          cases same
        · rfl
      · rintro rfl
        refine .unshown noText ?_
        rw [← Bool.not_eq_true, ← succeeds_literal_iff, literal]
        exact not_succeeds_error _

theorem settles_leaf {v : Value} (plain : v = .null ∨ v.isScalar = true) :
    Settles [.leaf v] (.ok v : Except Fault Value) where
  succeeds := iff_of_true (succeeds_ok v) (List.forall_mem_singleton.mpr plain)
  fails fault := by
    apply iff_of_false (by rintro ⟨⟩)
    rintro (refused | ⟨_, ⟨⟩⟩)
    exact refused.not_isPlain plain

mutual

theorem settles_normalize (v : Value) : Settles v.parts v.normalize := by
  cases v with
  | list items | tuple items | set items => exact (settles_normalizeItems items).map _
  | map entries => exact (settles_normalizeEntries entries).map _
  | foreign kind shown =>
      refine settles_refused rfl ?_
      intro other
      constructor
      · rintro ⟨⟩
        rfl
      · rintro rfl
        exact .leaf
  | null => exact settles_leaf (.inl rfl)
  | _ => exact settles_leaf (.inr rfl)

theorem settles_normalizeItems (items : List Value) :
    Settles (itemsParts items) (normalizeItems items) := by
  cases items with
  | nil => exact .ok []
  | cons v rest =>
      apply (settles_normalize v).bind
      intro first
      exact (settles_normalizeItems rest).map _

theorem settles_normalizeEntries (entries : List (Value × Value)) :
    Settles (entriesParts entries) (normalizeEntries entries) := by
  cases entries with
  | nil => exact .ok []
  | cons entry rest =>
      obtain ⟨key, v⟩ := entry
      cases key with
      | text name =>
          -- The key stands in front of the parts of its value, and it is plain.
          refine Settles.behind ?_ ⟨name, rfl⟩
          apply (settles_normalize v).bind
          intro value
          exact (settles_normalizeEntries rest).map _
      | _ => exact settles_key rfl _

end

/-! ## What normalizing makes -/

mutual

/-- Where normalizing succeeds, it makes lists of the sequences and nothing else. -/
theorem eq_listed_of_normalize {v plain : Value} (success : v.normalize = .ok plain) :
    plain = v.listed := by
  cases v with
  | list items | tuple items | set items =>
      obtain ⟨others, each, same⟩ := bind_eq_ok_iff.mp success
      cases same
      rw [listed, eq_listedItems_of_normalizeItems each]
  | map entries =>
      obtain ⟨others, each, same⟩ := bind_eq_ok_iff.mp success
      cases same
      rw [listed, eq_listedEntries_of_normalizeEntries each]
  | foreign kind shown => cases success
  | _ =>
      cases success
      rfl

theorem eq_listedItems_of_normalizeItems {items results : List Value}
    (success : normalizeItems items = .ok results) : results = listedItems items := by
  cases items with
  | nil =>
      cases success
      rfl
  | cons v rest =>
      obtain ⟨first, here, success⟩ := bind_eq_ok_iff.mp success
      obtain ⟨others, later, same⟩ := bind_eq_ok_iff.mp success
      cases same
      rw [listedItems, eq_listed_of_normalize here, eq_listedItems_of_normalizeItems later]

theorem eq_listedEntries_of_normalizeEntries {entries results : List (Value × Value)}
    (success : normalizeEntries entries = .ok results) : results = listedEntries entries := by
  cases entries with
  | nil =>
      cases success
      rfl
  | cons entry rest =>
      obtain ⟨key, v⟩ := entry
      cases key with
      | text name =>
          obtain ⟨value, here, success⟩ := bind_eq_ok_iff.mp success
          obtain ⟨others, later, same⟩ := bind_eq_ok_iff.mp success
          cases same
          rw [listedEntries, eq_listed_of_normalize here,
            eq_listedEntries_of_normalizeEntries later]
      | _ =>
          obtain ⟨_, _, success⟩ := bind_eq_ok_iff.mp success
          cases success

end

theorem keys_listedEntries (entries : List (Value × Value)) :
    (listedEntries entries).map Prod.fst = entries.map Prod.fst := by
  induction entries with
  | nil => rfl
  | cons entry rest ih => rw [listedEntries, List.map_cons, List.map_cons, ih]

mutual

theorem rewritten_listed (v : Value) : v.Rewritten (· = ·) v.listed := by
  cases v with
  | text s => exact .text rfl
  | list items | tuple items | set items => exact .sequence rfl (rewritten_listedItems items)
  | map entries => exact .map (keys_listedEntries entries) (rewritten_listedEntries entries)
  | _ => exact .other rfl rfl rfl

theorem rewritten_listedItems (items : List Value) :
    List.Forall₂ (Rewritten (· = ·)) items (listedItems items) := by
  cases items with
  | nil => exact .nil
  | cons v rest => exact .cons (rewritten_listed v) (rewritten_listedItems rest)

theorem rewritten_listedEntries (entries : List (Value × Value)) :
    List.Forall₂ (Rewritten (· = ·)) (entries.map Prod.snd)
      ((listedEntries entries).map Prod.snd) := by
  cases entries with
  | nil => exact .nil
  | cons entry rest => exact .cons (rewritten_listed entry.2) (rewritten_listedEntries rest)

end

/-! ## Property texts -/

mutual

/-- Whether a value holds no set, at any depth of its items and of the values of its mappings. -/
def isSetFree : Value → Bool
  | .set _ => false
  | .list items | .tuple items => itemsAreSetFree items
  | .map entries => entriesAreSetFree entries
  | _ => true

def itemsAreSetFree : List Value → Bool
  | [] => true
  | v :: rest => isSetFree v && itemsAreSetFree rest

def entriesAreSetFree : List (Value × Value) → Bool
  | [] => true
  | (_, v) :: rest => isSetFree v && entriesAreSetFree rest

end

mutual

/-- JSON has no other form for tuples than for lists. -/
theorem write_listed {v : Value} (setFree : v.isSetFree = true) :
    Json.write v.listed = Json.write v := by
  cases v with
  | list items | tuple items =>
      rw [listed, Json.write, Json.write, writeItems_listedItems setFree]
  | set items => cases setFree
  | map entries => rw [listed, Json.write, Json.write, writeEntries_listedEntries setFree]
  | _ => rfl

theorem writeItems_listedItems {items : List Value} (setFree : itemsAreSetFree items = true) :
    Json.writeItems (listedItems items) = Json.writeItems items := by
  match items with
  | [] => rfl
  | [v] =>
      rw [itemsAreSetFree, Bool.and_eq_true] at setFree
      exact write_listed setFree.1
  | v :: next :: rest =>
      rw [itemsAreSetFree, Bool.and_eq_true] at setFree
      have others := writeItems_listedItems setFree.2
      simp only [listedItems, Json.writeItems] at others ⊢
      rw [write_listed setFree.1, others]

theorem writeEntries_listedEntries {entries : List (Value × Value)}
    (setFree : entriesAreSetFree entries = true) :
    Json.writeEntries (listedEntries entries) = Json.writeEntries entries := by
  match entries with
  | [] => rfl
  | [(key, v)] =>
      rw [entriesAreSetFree, Bool.and_eq_true] at setFree
      simp only [listedEntries, Json.writeEntries, write_listed setFree.1]
  | (key, v) :: next :: rest =>
      rw [entriesAreSetFree, Bool.and_eq_true] at setFree
      have others := writeEntries_listedEntries setFree.2
      simp only [listedEntries, Json.writeEntries] at others ⊢
      rw [write_listed setFree.1, others]

end

theorem stringify_listed {v : Value} (setFree : v.isSetFree = true) :
    v.listed.stringify = v.stringify := by
  have written := write_listed setFree
  cases v with
  | list items | tuple items | map entries =>
      change Json.text _ = Json.text _
      unfold Json.text
      rw [← written]
      rfl
  | set items => cases setFree
  | _ => rfl

mutual

/-- Plain parts are written as they are, so only the length of integers matters. -/
theorem isWritable_of_isPlain_parts {v : Value} (plain : ∀ part ∈ v.parts, part.IsPlain)
    (short : v.isShown = true) : v.isWritable = true := by
  cases v with
  | list items | tuple items => exact itemsAreWritable_of_isPlain_parts plain short
  | map entries => exact entriesAreWritable_of_isPlain_parts plain short
  | set items => exact short
  | int n => exact short
  | _ => rfl

theorem itemsAreWritable_of_isPlain_parts {items : List Value}
    (plain : ∀ part ∈ itemsParts items, part.IsPlain) (short : itemsAreShown items = true) :
    itemsAreWritable items = true := by
  cases items with
  | nil => rfl
  | cons v rest =>
      obtain ⟨here, later⟩ := List.forall_mem_append.mp plain
      rw [itemsAreShown, Bool.and_eq_true] at short
      rw [itemsAreWritable, isWritable_of_isPlain_parts here short.1,
        itemsAreWritable_of_isPlain_parts later short.2]
      rfl

theorem entriesAreWritable_of_isPlain_parts {entries : List (Value × Value)}
    (plain : ∀ part ∈ entriesParts entries, part.IsPlain)
    (short : entriesAreShown entries = true) : entriesAreWritable entries = true := by
  cases entries with
  | nil => rfl
  | cons entry rest =>
      obtain ⟨key, v⟩ := entry
      obtain ⟨⟨name, rfl⟩, behind⟩ := List.forall_mem_cons.mp plain
      obtain ⟨here, later⟩ := List.forall_mem_append.mp behind
      simp only [entriesAreShown, Bool.and_eq_true] at short
      rw [entriesAreWritable, isWritable_of_isPlain_parts here short.1.2,
        entriesAreWritable_of_isPlain_parts later short.2]
      rfl

end

/-- Normalizing is a projection onto plain data.  It succeeds if all parts are plain; the result has
the shape of the value, is normal itself and, but for sets, has the same property text.  Otherwise
the first part that is not plain is refused, with an error on types if it can be shown. -/
theorem normalize_projects (v : Value) :
    (Succeeds v.normalize ↔ ∀ part ∈ v.parts, part.IsPlain) ∧
    (∀ plain, v.normalize = .ok plain →
      v.Rewritten (· = ·) plain ∧ plain.normalize = .ok plain ∧
        (v.isSetFree = true → plain.stringify = v.stringify) ∧
        (v.isShown = true → Succeeds v.stringify)) ∧
    ∀ fault, v.normalize = .error fault ↔
      ∃ earlier part later, v.parts = earlier ++ part :: later ∧
        (∀ other ∈ earlier, other.IsPlain) ∧ part.Refused fault ∧
        (fault.label = "TypeError" ↔ part.isShown = true) := by
  have settles := settles_normalize v
  refine ⟨settles.succeeds, ?_, ?_⟩
  · intro plain success
    have plainParts := settles.succeeds.mp ⟨plain, success⟩
    refine ⟨?_, normalize_eq_self (isPlain_of_normalize success), ?_, ?_⟩
    · rw [eq_listed_of_normalize success]
      exact rewritten_listed v
    · intro setFree
      rw [eq_listed_of_normalize success]
      exact stringify_listed setFree
    · intro short
      exact (succeeds_stringify_iff v).mpr (isWritable_of_isPlain_parts plainParts short)
  · intro fault
    rw [settles.fails, Part.firstRefused_iff]
    constructor
    · rintro ⟨earlier, part, later, same, plain, refused⟩
      exact ⟨earlier, part, later, same, plain, refused, refused.label_eq_iff⟩
    · rintro ⟨earlier, part, later, same, plain, refused, _⟩
      exact ⟨earlier, part, later, same, plain, refused⟩

/-- A set is shown by its literal, but by the items of its list once it is normalized. -/
example :
    (Value.set [.null]).stringify = .ok "\"\x7bNone\x7d\"" ∧
      (Value.set [.null]).listed.stringify = .ok "[null]" := by
  decide +kernel

/-- A key that is an integer with too many digits is refused with another error. -/
theorem normalize_unshown_key :
    (Value.map [(.int (tenTo 4300), .null)]).normalize = .error .digitsWritten ∧
      Fault.digitsWritten.label ≠ "TypeError" := by
  have long : isShown (.int (tenTo 4300)) = false := by
    rw [isShown, Numeral.isShort, Int.natAbs_natCast]
    exact decide_eq_false (Nat.lt_irrefl _)
  refine ⟨?_, by decide⟩
  exact ((settles_normalize _).fails _).mpr (.here (.unshown rfl long))

end Value

end Playbook
