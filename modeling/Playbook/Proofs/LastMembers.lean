/-!
# First and last members

No member of a list has a property, or there is a first one that has it.  Where steps overwrite
a part of a state or leave it, the part ends as the last step that overwrites it says, or else as
it was.
-/

namespace Playbook

variable {α β σ : Type}

theorem none_or_first (property : α → Prop) (members : List α) :
    (∀ member ∈ members, ¬property member) ∨ ∃ earlier first later,
      members = earlier ++ first :: later ∧ (∀ other ∈ earlier, ¬property other) ∧
        property first := by
  induction members with
  | nil => exact .inl (List.forall_mem_nil _)
  | cons member rest ih =>
      by_cases has : property member
      · exact .inr ⟨[], member, rest, rfl, List.forall_mem_nil _, has⟩
      · rcases ih with none | ⟨earlier, first, later, rfl, before, holds⟩
        · exact .inl (List.forall_mem_cons.mpr ⟨has, none⟩)
        · exact .inr ⟨member :: earlier, first, later, rfl,
            List.forall_mem_cons.mpr ⟨has, before⟩, holds⟩

/-- The last member of a list that has a property. -/
def IsLast (members : List α) (property : α → Prop) (member : α) : Prop :=
  ∃ front later, members = front ++ member :: later ∧ property member ∧
    ∀ other ∈ later, ¬property other

theorem IsLast.mem {members : List α} {property : α → Prop} {member : α}
    (last : IsLast members property member) : member ∈ members := by
  obtain ⟨front, later, rfl, _⟩ := last
  simp

theorem getLast?_filterMap_eq_some_iff {gives : α → Option β} {property : α → Prop}
    (given : ∀ member, (gives member).isSome = true ↔ property member) {members : List α}
    {result : β} :
    (members.filterMap gives).getLast? = some result ↔
      ∃ member, IsLast members property member ∧ gives member = some result := by
  have nothing : ∀ member, gives member = none ↔ ¬property member := by
    intro member
    rw [← given member, Option.not_isSome_iff_eq_none]
  rw [List.getLast?_filterMap, List.findSome?_eq_some_iff]
  constructor
  · rintro ⟨later, member, front, backwards, found, behind⟩
    refine ⟨member, ⟨front.reverse, later.reverse, ?split, ?has, ?last⟩, found⟩
    case split =>
      rw [← List.reverse_reverse members, backwards]
      simp
    case has => exact (given member).mp (by simp [found])
    case last =>
      intro other inside
      exact (nothing other).mp (behind other (List.mem_reverse.mp inside))
  · rintro ⟨member, ⟨front, later, rfl, _, last⟩, found⟩
    refine ⟨later.reverse, member, front.reverse, by simp, found, ?_⟩
    intro other inside
    exact (nothing other).mpr (last other (List.mem_reverse.mp inside))

/-- Steps that either overwrite a part of a state or leave it: the last one that overwrites it
counts. -/
theorem view_foldl (view : σ → Option β) {step : σ → α → σ} {gives : α → Option β}
    (overwrites : ∀ state member, view (step state member) = (gives member).or (view state))
    (members : List α) (state : σ) :
    view (members.foldl step state) = (members.filterMap gives).getLast?.or (view state) := by
  induction members generalizing state with
  | nil => rfl
  | cons member rest ih =>
      rw [List.foldl_cons, ih, overwrites]
      cases given : gives member with
      | none => simp [given]
      | some result =>
          cases last : (rest.filterMap gives).getLast? with
          | none => simp [given, List.getLast?_cons, last]
          | some other => simp [given, List.getLast?_cons, last]

/-- A part of a state behind steps comes from the last step that overwrites it, or from the
beginning. -/
theorem view_foldl_eq_some_iff (view : σ → Option β) {step : σ → α → σ} {gives : α → Option β}
    {property : α → Prop}
    (overwrites : ∀ state member, view (step state member) = (gives member).or (view state))
    (given : ∀ member, (gives member).isSome = true ↔ property member)
    {members : List α} {state : σ} {result : β} :
    view (members.foldl step state) = some result ↔
      (∃ member, IsLast members property member ∧ gives member = some result) ∨
        (∀ member ∈ members, ¬property member) ∧ view state = some result := by
  have nothing : (members.filterMap gives).getLast? = none ↔
      ∀ member ∈ members, ¬property member := by
    rw [List.getLast?_eq_none_iff, List.filterMap_eq_nil_iff]
    refine forall₂_congr fun member _ => ?_
    rw [← given member, Option.not_isSome_iff_eq_none]
  rw [view_foldl view overwrites, Option.or_eq_some_iff, nothing,
    getLast?_filterMap_eq_some_iff given]

theorem isLast_cons_iff {property : α → Prop} {first member : α} {rest : List α} :
    IsLast (first :: rest) property member ↔
      IsLast rest property member ∨
        first = member ∧ property member ∧ ∀ other ∈ rest, ¬property other := by
  constructor
  · rintro ⟨front, later, split, has, last⟩
    cases front with
    | nil =>
        obtain ⟨rfl, rfl⟩ := List.cons_eq_cons.mp split
        exact .inr ⟨rfl, has, last⟩
    | cons other front =>
        obtain ⟨_, split⟩ := List.cons_eq_cons.mp split
        exact .inl ⟨front, later, split, has, last⟩
  · rintro (⟨front, later, rfl, has, last⟩ | ⟨rfl, has, last⟩)
    · exact ⟨first :: front, later, rfl, has, last⟩
    · exact ⟨[], rest, rfl, has, last⟩

end Playbook
