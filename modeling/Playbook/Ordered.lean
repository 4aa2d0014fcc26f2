/-!
# Ordered maps

Maps as lists of entries in order of insertion. Writing to a key that is present keeps its
place; a new key goes to the end. A lookup finds what was written last, and no operation
repeats a key.
-/

namespace Playbook.Ordered

variable {α β : Type} [BEq α]

/-- The value stored under a key. -/
def find? (key : α) : List (α × β) → Option β
  | [] => none
  | (k, v) :: rest => if k == key then some v else find? key rest

/-- Whether a key is present. -/
def contains (key : α) (entries : List (α × β)) : Bool :=
  entries.any fun entry => entry.1 == key

def put (key : α) (value : β) : List (α × β) → List (α × β)
  | [] => [(key, value)]
  | (k, v) :: rest => if k == key then (k, value) :: rest else (k, v) :: put key value rest

/-- Stores several entries, one after the other. -/
def putAll (entries additions : List (α × β)) : List (α × β) :=
  additions.foldl (fun current entry => put entry.1 entry.2 current) entries

/-- The map that several entries build, later ones winning. -/
def ofEntries (entries : List (α × β)) : List (α × β) := putAll [] entries

/-- Removes a key. -/
def erase (key : α) (entries : List (α × β)) : List (α × β) :=
  entries.filter fun entry => !(entry.1 == key)

@[simp] theorem find?_nil (key : α) : find? key ([] : List (α × β)) = none := rfl

@[simp] theorem putAll_nil (entries : List (α × β)) : putAll entries [] = entries := rfl

@[simp] theorem putAll_cons (entries additions : List (α × β)) (entry : α × β) :
    putAll entries (entry :: additions) = putAll (put entry.1 entry.2 entries) additions := rfl

/-- Writing adds nothing but what is written. -/
theorem mem_put {key : α} {value : β} {entries : List (α × β)} {entry : α × β}
    (member : entry ∈ put key value entries) :
    entry ∈ entries ∨ entry.2 = value ∧ (entry.1 = key ∨ entry.1 ∈ entries.map Prod.fst) := by
  induction entries with
  | nil =>
      rw [List.mem_singleton.mp member]
      exact .inr ⟨rfl, .inl rfl⟩
  | cons first rest ih =>
      unfold put at member
      split at member
      · rcases List.mem_cons.mp member with rfl | later
        · exact .inr ⟨rfl, .inr List.mem_cons_self⟩
        · exact .inl (List.mem_cons_of_mem _ later)
      · rcases List.mem_cons.mp member with rfl | later
        · exact .inl List.mem_cons_self
        · exact (ih later).imp (List.mem_cons_of_mem _)
            (And.imp_right (Or.imp_right (List.mem_cons_of_mem _)))

/-- A key is present if and only if it has a value. -/
theorem contains_eq_isSome_find? (key : α) (entries : List (α × β)) :
    contains key entries = (find? key entries).isSome := by
  induction entries with
  | nil => rfl
  | cons entry rest ih =>
      unfold contains at ih ⊢
      cases same : entry.1 == key <;> simp [find?, same, ih]

/-- What is found under a key is in an entry with an equal key. -/
theorem exists_mem_of_find? {key : α} {value : β} {entries : List (α × β)}
    (found : find? key entries = some value) :
    ∃ entry ∈ entries, (entry.1 == key) = true ∧ entry.2 = value := by
  induction entries with
  | nil => cases found
  | cons entry rest ih =>
      unfold find? at found
      split at found
      · rename_i same
        exact ⟨entry, List.mem_cons_self, same, Option.some.inj found⟩
      · obtain ⟨other, member, rest⟩ := ih found
        exact ⟨other, List.mem_cons_of_mem _ member, rest⟩

/-- Removing a key leaves it without a value. -/
@[simp] theorem find?_erase_self (key : α) (entries : List (α × β)) :
    find? key (erase key entries) = none := by
  induction entries with
  | nil => rfl
  | cons entry rest ih =>
      unfold erase at ih ⊢
      cases same : entry.1 == key <;> simp [find?, same, ih]

theorem find?_append (key : α) (first second : List (α × β)) :
    find? key (first ++ second) = (find? key first).or (find? key second) := by
  induction first with
  | nil => rfl
  | cons entry rest ih =>
      cases same : entry.1 == key <;> simp [find?, same, ih]

/-- A new key goes to the end; the keys that are present keep their places. -/
theorem keys_put (key : α) (value : β) (entries : List (α × β)) :
    (put key value entries).map Prod.fst =
      if contains key entries then entries.map Prod.fst else entries.map Prod.fst ++ [key] := by
  induction entries with
  | nil => simp [put, contains]
  | cons entry rest ih =>
      unfold contains at ih ⊢
      cases same : entry.1 == key with
      | true => simp [put, same]
      | false =>
          simp only [put, same, Bool.false_eq_true, if_false, List.map_cons, ih, List.any_cons,
            Bool.false_or, List.cons_append]
          split <;> rfl

theorem put_of_not_contains {key : α} {entries : List (α × β)}
    (absent : contains key entries = false) (value : β) :
    put key value entries = entries ++ [(key, value)] := by
  induction entries with
  | nil => rfl
  | cons entry rest ih =>
      unfold contains at ih absent
      rw [List.any_cons, Bool.or_eq_false_iff] at absent
      simp [put, absent.1, ih absent.2]

/-- Storing new keys, each of them once, adds the entries as they are. -/
theorem putAll_eq_append {entries additions : List (α × β)}
    (fresh : ∀ entry ∈ additions, contains entry.1 entries = false)
    (distinct : additions.Pairwise fun entry later => (entry.1 == later.1) = false) :
    putAll entries additions = entries ++ additions := by
  induction additions generalizing entries with
  | nil => simp
  | cons entry rest ih =>
      obtain ⟨others, later⟩ := List.pairwise_cons.mp distinct
      rw [putAll_cons, put_of_not_contains (fresh entry List.mem_cons_self), ih _ later]
      · simp
      · intro other member
        have absent := fresh other (List.mem_cons_of_mem _ member)
        unfold contains at absent ⊢
        simp [absent, others other member]

/-- Entries without a repeated key build a map as they are. -/
theorem ofEntries_eq_self {entries : List (α × β)}
    (distinct : entries.Pairwise fun entry later => (entry.1 == later.1) = false) :
    ofEntries entries = entries := by
  have fresh : ∀ entry ∈ entries, contains entry.1 ([] : List (α × β)) = false := by
    intro entry _
    rfl
  exact putAll_eq_append fresh distinct

section Lawful

variable [LawfulBEq α]

/-- A lookup finds what was written under its key. -/
@[simp] theorem find?_put_self (key : α) (value : β) (entries : List (α × β)) :
    find? key (put key value entries) = some value := by
  induction entries with
  | nil => simp [put, find?]
  | cons entry rest ih =>
      cases same : entry.1 == key <;> simp [put, find?, same, ih]

/-- Writing to a key leaves the values of all others. -/
theorem find?_put_of_ne {key other : α} (distinct : key ≠ other) (value : β)
    (entries : List (α × β)) :
    find? other (put key value entries) = find? other entries := by
  induction entries with
  | nil => simp [put, find?, distinct]
  | cons entry rest ih =>
      cases same : entry.1 == key with
      | true =>
          have equality : entry.1 = key := eq_of_beq same
          simp [put, find?, equality, distinct]
      | false => simp [put, find?, same, ih]

/-- What was stored last under a key is found first. -/
theorem find?_putAll (key : α) (entries additions : List (α × β)) :
    find? key (putAll entries additions) =
      (find? key additions.reverse).or (find? key entries) := by
  induction additions generalizing entries with
  | nil => rfl
  | cons entry rest ih =>
      rw [putAll_cons, ih, List.reverse_cons, find?_append, Option.or_assoc]
      congr 1
      by_cases same : entry.1 = key
      · subst same
        simp [find?]
      · simp [find?_put_of_ne same, find?, same]

/-- Several keys with one value. -/
theorem find?_map_pair (key : α) (names : List α) (value : β) :
    find? key (names.map fun name => (name, value)) =
      if names.contains key then some value else none := by
  induction names with
  | nil => rfl
  | cons name rest ih =>
      by_cases same : name = key
      · simp [find?, same]
      · have other : key ≠ name := Ne.symm same
        simpa [find?, same, other] using ih

/-- Where no key is repeated, every entry is found. -/
theorem find?_eq_some_of_mem {entries : List (α × β)} (distinct : (entries.map Prod.fst).Nodup)
    {entry : α × β} (member : entry ∈ entries) : find? entry.1 entries = some entry.2 := by
  induction entries with
  | nil => cases member
  | cons first rest ih =>
      rw [List.map_cons, List.nodup_cons] at distinct
      rcases List.mem_cons.mp member with same | later
      · simp [find?, same]
      · have other : first.1 ≠ entry.1 := by
          intro same
          exact distinct.1 (List.mem_map.mpr ⟨entry, later, same.symm⟩)
        simp [find?, other, ih distinct.2 later]

theorem mem_of_find?_eq_some {key : α} {value : β} {entries : List (α × β)}
    (found : find? key entries = some value) : (key, value) ∈ entries := by
  obtain ⟨entry, member, same, rfl⟩ := exists_mem_of_find? found
  rw [← eq_of_beq same]
  exact member

/-- Where no key is repeated, a lookup finds exactly the entries. -/
theorem find?_eq_some_iff {entries : List (α × β)} (distinct : (entries.map Prod.fst).Nodup)
    {key : α} {value : β} : find? key entries = some value ↔ (key, value) ∈ entries :=
  ⟨mem_of_find?_eq_some, find?_eq_some_of_mem distinct⟩

theorem isSome_find?_iff {key : α} {entries : List (α × β)} :
    (find? key entries).isSome = true ↔ key ∈ entries.map Prod.fst := by
  rw [← contains_eq_isSome_find?, contains, List.any_eq_true, List.mem_map]
  simp only [beq_iff_eq]

theorem mem_keys_put {key other : α} {value : β} {entries : List (α × β)} :
    other ∈ (put key value entries).map Prod.fst ↔ other = key ∨ other ∈ entries.map Prod.fst := by
  rw [← isSome_find?_iff, ← isSome_find?_iff]
  by_cases same : key = other
  · rw [same, find?_put_self]
    simp
  · rw [find?_put_of_ne same, or_iff_right (Ne.symm same)]

theorem mem_keys_putAll {other : α} {entries additions : List (α × β)} :
    other ∈ (putAll entries additions).map Prod.fst ↔
      other ∈ additions.map Prod.fst ∨ other ∈ entries.map Prod.fst := by
  rw [← isSome_find?_iff, find?_putAll, Option.isSome_or, Bool.or_eq_true, isSome_find?_iff,
    isSome_find?_iff, List.map_reverse, List.mem_reverse]

/-- Where no key is repeated, a lookup may begin at either end. -/
theorem find?_reverse {entries : List (α × β)} (distinct : (entries.map Prod.fst).Nodup)
    (key : α) : find? key entries.reverse = find? key entries := by
  have backwards : (entries.reverse.map Prod.fst).Nodup := by
    rw [List.map_reverse]
    exact List.pairwise_reverse.mpr (distinct.imp Ne.symm)
  apply Option.ext
  intro value
  rw [find?_eq_some_iff backwards, find?_eq_some_iff distinct, List.mem_reverse]

/-- Writing repeats no key. -/
theorem nodup_keys_put {entries : List (α × β)} (distinct : (entries.map Prod.fst).Nodup)
    (key : α) (value : β) : ((put key value entries).map Prod.fst).Nodup := by
  rw [keys_put]
  split
  · exact distinct
  · rename_i absent
    have fresh : key ∉ entries.map Prod.fst := by
      intro member
      obtain ⟨entry, entryMember, equality⟩ := List.mem_map.mp member
      exact absent (List.any_eq_true.mpr ⟨entry, entryMember, by simp [equality]⟩)
    exact List.nodup_append.mpr ⟨distinct, by simp, by
      intro first firstMember second secondMember equality
      exact fresh (by simpa [List.mem_singleton.mp secondMember, equality] using firstMember)⟩

/-- Storing several entries repeats no key. -/
theorem nodup_keys_putAll {entries : List (α × β)} (distinct : (entries.map Prod.fst).Nodup)
    (additions : List (α × β)) : ((putAll entries additions).map Prod.fst).Nodup := by
  induction additions generalizing entries with
  | nil => exact distinct
  | cons entry rest ih => exact ih (nodup_keys_put distinct entry.1 entry.2)

/-- The map that entries build has every key once. -/
theorem nodup_keys_ofEntries (entries : List (α × β)) :
    ((ofEntries entries).map Prod.fst).Nodup := by
  unfold ofEntries
  exact nodup_keys_putAll (by simp) entries

end Lawful

end Playbook.Ordered
