import Mathlib.Data.List.Infix
import Playbook.Diagnostic.Schema

/-!
# Innermost parts

`Leads` and `Innermost` describe what a diagnostic on a schema shows: of the parts of a value that
a path leads to, the one that is farthest along it.  A step in front of the path, as the form that
a document was read as, has no counterpart in the value; the last lemmas say what it does to the
part that is shown.
-/

namespace Playbook.Issue

variable {path place other rest : List Part} {part tag : Part}
variable {start found last : Option Value × Value}

/-- The part that a path leads to, with its key if it is found under one. -/
inductive Leads : List Part → Option Value × Value → Option Value × Value → Prop where
  | here (found : Option Value × Value) : Leads [] found found
  | step {part : Part} {rest : List Part} {found next last : Option Value × Value}
      (follows : part.follow found.2 = some next) (leads : Leads rest next last) :
      Leads (part :: rest) found last

/-- The part that is farthest along a path: all the beginnings of the path that lead somewhere are
beginnings of its place. -/
structure Innermost (start : Option Value × Value) (path place : List Part)
    (found : Option Value × Value) : Prop where
  onPath : place <+: path
  leads : Leads place start found
  farthest : ∀ other, other <+: path → (∃ part, Leads other start part) → other <+: place

/-- A part as an element that is shown: in a mapping of its own if it has a key. -/
def element : Option Value × Value → Value
  | (some key, found) => .map [(key, found)]
  | (none, found) => found

theorem pinpoint_eq (issue : Issue) (v : Value) :
    issue.pinpoint v = element (innermost issue.path (none, v)) := by
  unfold pinpoint element
  rfl

theorem Leads.unique (first : Leads path start found) (second : Leads path start last) :
    found = last := by
  induction first with
  | here =>
      cases second
      rfl
  | step follows _ ih =>
      cases second with
      | step follows' leads =>
          rw [follows] at follows'
          cases follows'
          exact ih leads

theorem Leads.exists_follow (leads : Leads (part :: rest) start found) :
    ∃ next, part.follow start.2 = some next := by
  cases leads with
  | step follows => exact ⟨_, follows⟩

/-- On a path that cannot be followed at all the whole value is the innermost part. -/
theorem Innermost.whole (stuck : ∀ part ∈ path.head?, part.follow start.2 = none) :
    Innermost start path [] start where
  onPath := List.nil_prefix
  leads := .here start
  farthest := by
    rintro other beginning ⟨_, leads⟩
    cases leads with
    | here => exact List.prefix_rfl
    | step follows =>
        obtain ⟨behind, rfl⟩ := beginning
        rw [stuck _ rfl] at follows
        cases follows

/-- The search for an element finds the innermost one. -/
theorem exists_innermost (path : List Part) (start : Option Value × Value) :
    ∃ place, Innermost start path place (innermost path start) := by
  induction path generalizing start with
  | nil => exact ⟨[], .whole nofun⟩
  | cons part rest ih =>
      unfold innermost
      cases follows : part.follow start.2 with
      | none =>
          refine ⟨[], .whole ?_⟩
          rintro _ ⟨⟩
          exact follows
      | some next =>
          obtain ⟨place, inner⟩ := ih next
          refine ⟨part :: place, List.cons_prefix_cons.mpr ⟨rfl, inner.onPath⟩,
            .step follows inner.leads, ?_⟩
          rintro other beginning ⟨last, leads⟩
          cases leads with
          | here => exact List.nil_prefix
          | step goesOn leads =>
              obtain ⟨rfl, behind⟩ := List.cons_prefix_cons.mp beginning
              rw [follows] at goesOn
              cases goesOn
              exact List.cons_prefix_cons.mpr ⟨rfl, inner.farthest _ behind ⟨last, leads⟩⟩

theorem Innermost.unique (first : Innermost start path place found)
    (second : Innermost start path other last) : place = other ∧ found = last := by
  have forward := second.farthest place first.onPath ⟨found, first.leads⟩
  have backward := first.farthest other second.onPath ⟨last, second.leads⟩
  have same : place = other :=
    forward.eq_of_length (le_antisymm forward.length_le backward.length_le)
  subst same
  exact ⟨rfl, first.leads.unique second.leads⟩

/-- The whole value is shown if and only if the path cannot be followed at all. -/
theorem Innermost.place_eq_nil_iff (inner : Innermost start path place found) :
    place = [] ↔ ∀ part ∈ path.head?, part.follow start.2 = none := by
  constructor
  · rintro rfl part first
    obtain ⟨rest, rfl⟩ := List.head?_eq_some_iff.mp first
    by_contra goesOn
    obtain ⟨next, follows⟩ := Option.ne_none_iff_exists'.mp goesOn
    have step : [part] <+: part :: rest := List.cons_prefix_cons.mpr ⟨rfl, List.nil_prefix⟩
    have impossible := inner.farthest [part] step ⟨next, .step follows (.here next)⟩
    exact absurd (List.prefix_nil.mp impossible) (List.cons_ne_nil _ _)
  · intro stuck
    cases place with
    | nil => rfl
    | cons part rest =>
        obtain ⟨next, follows⟩ := inner.leads.exists_follow
        obtain ⟨behind, rfl⟩ := inner.onPath
        rw [stuck part rfl] at follows
        cases follows

section Tagged

variable (inner : Innermost start (tag :: path) place found)
  (apart : ∀ part ∈ path.head?, part ≠ tag)
include inner

/-- Without an entry for the step in front the whole value is shown. -/
theorem Innermost.whole_of_tagged (untagged : tag.follow start.2 = none) :
    place = [] ∧ found = start := by
  have whole : place = [] := inner.place_eq_nil_iff.mpr fun part first => by
    cases first
    exact untagged
  refine ⟨whole, ?_⟩
  have leads := inner.leads
  rw [whole] at leads
  cases leads
  rfl

include apart

/-- What is shown is off the path behind the step in front if this step can be followed. -/
theorem Innermost.onPath_iff_of_tagged : place <+: path ↔ tag.follow start.2 = none := by
  constructor
  · intro beginning
    by_contra goesOn
    cases place with
    | nil => exact goesOn (inner.place_eq_nil_iff.mp rfl tag rfl)
    | cons part rest =>
        have front : part = tag := (List.cons_prefix_cons.mp inner.onPath).1
        obtain ⟨behind, rfl⟩ := beginning
        exact apart part rfl front
  · intro untagged
    rw [(inner.whole_of_tagged untagged).1]
    exact List.nil_prefix

/-- With a step in front the innermost part is found only if it is the whole value. -/
theorem Innermost.innermost_iff_of_tagged : Innermost start path place found ↔
    tag.follow start.2 = none ∧ ∀ part ∈ path.head?, part.follow start.2 = none := by
  constructor
  · intro wanted
    have untagged := (inner.onPath_iff_of_tagged apart).mp wanted.onPath
    exact ⟨untagged, wanted.place_eq_nil_iff.mp (inner.whole_of_tagged untagged).1⟩
  · rintro ⟨untagged, stuck⟩
    obtain ⟨rfl, rfl⟩ := inner.whole_of_tagged untagged
    exact .whole stuck

end Tagged

end Playbook.Issue
