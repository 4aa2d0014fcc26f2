import Mathlib.Data.List.Nodup
import Playbook.Proofs.Indices

/-!
# What paths lead to

A lookup follows the segments of its path one after the other, each from all parts found so far,
which it keeps under their pointers.  No two parts have the same pointer, so that none is lost, and
the parts come in the order in which a walk through the value meets them.  A lookup has an end
unless a segment that reads as an index and is none is to select from a sequence.
-/

namespace Playbook

open Fallible

namespace Ordered

theorem putAll_of_nodup {α β : Type} [BEq α] [LawfulBEq α] {entries additions : List (α × β)}
    (distinct : ((entries ++ additions).map Prod.fst).Nodup) :
    putAll entries additions = entries ++ additions := by
  rw [List.map_append, List.nodup_append] at distinct
  obtain ⟨_, additionsDistinct, apart⟩ := distinct
  apply putAll_eq_append
  · intro entry member
    apply Bool.eq_false_iff.mpr
    intro present
    obtain ⟨stored, storedMember, same⟩ := List.any_eq_true.mp present
    exact apart stored.1 (List.mem_map_of_mem storedMember) entry.1 (List.mem_map_of_mem member)
      (eq_of_beq same)
  · exact (List.pairwise_map.mp additionsDistinct).imp beq_eq_false_iff_ne.mpr

end Ordered

namespace Lookup

/-! ## The walk through a value -/

/-- The item that a position stands for, a negative one counting from the end. -/
def itemAt? (items : List Value) : Int → Option Value
  | .ofNat position => items[position]?
  | .negSucc position => items.reverse[position]?

/-- The parts right below a part that a segment selects, in order and with a name each: the
position of an item that a wildcard selects, and the segment itself otherwise. -/
def children (segment : String) : Value → List (String × Value)
  | .list items | .tuple items | .set items =>
      if segment = wildcard then items.zipIdx.map fun item => (toString item.2, item.1)
      else (((integer? segment).bind (itemAt? items)).map (Prod.mk segment)).toList
  | .map entries => ((Value.field? segment entries).map (Prod.mk segment)).toList
  | _ => []

/-- The parts that segments lead to, each with the names on the way to it.  What is below a child
comes before what is below the next one. -/
def located : List String → Value → List (List String × Value)
  | [], v => [([], v)]
  | segment :: rest, v =>
      (children segment v).flatMap fun child =>
        (located rest child.2).map fun part => (child.1 :: part.1, part.2)

/-- What segments lead to is what the later ones lead to from a child that the first one selects. -/
theorem exists_child_of_mem_located {segment : String} {rest : List String} {v : Value}
    {part : List String × Value} (member : part ∈ located (segment :: rest) v) :
    ∃ child ∈ children segment v, ∃ other ∈ located rest child.2,
      part = (child.1 :: other.1, other.2) := by
  obtain ⟨child, childOf, inside⟩ := List.mem_flatMap.mp member
  obtain ⟨other, otherOf, same⟩ := List.mem_map.mp inside
  exact ⟨child, childOf, other, otherOf, same.symm⟩

/-- The pointer to what names lead to from a place with a pointer. -/
def pointerFrom (pointer : String) (names : List String) : String :=
  names.foldl (fun pointer name => pointer ++ "/" ++ name) pointer

/-- The pointer to what names lead to from the whole value, which has a slash as its own. -/
def pointerTo (names : List String) : String :=
  if names.isEmpty then "/" else pointerFrom "" names

/-- On the way along segments, one that reads as an index and is none meets a sequence. -/
inductive Blocks (segment : String) : List String → Value → Prop where
  | here {rest : List String} {v : Value} {items : List Value} :
      v.items? = some items → ¬IsReadable segment → Blocks segment (segment :: rest) v
  | there {first : String} {rest : List String} {v : Value} {child : String × Value} :
      child ∈ children first v → Blocks segment rest child.2 → Blocks segment (first :: rest) v

theorem Blocks.not_isReadable {segment : String} {segments : List String} {v : Value}
    (blocks : Blocks segment segments v) : segment ∈ segments ∧ ¬IsReadable segment := by
  induction blocks with
  | here _ unreadable => exact ⟨List.mem_cons_self, unreadable⟩
  | there _ _ ih => exact ⟨List.mem_cons_of_mem _ ih.1, ih.2⟩

/-! ## One segment -/

section Segments

variable {segment pointer : String} {v : Value} {items : List Value}

theorem children_of_items (sequence : v.items? = some items) :
    children segment v =
      if segment = wildcard then items.zipIdx.map fun item => (toString item.2, item.1)
      else (((integer? segment).bind (itemAt? items)).map (Prod.mk segment)).toList := by
  cases v with
  | list _ | tuple _ | set _ =>
      cases sequence
      rfl
  | _ => cases sequence

theorem children_map (segment : String) (entries : List (Value × Value)) :
    children segment (.map entries) =
      ((Value.field? segment entries).map (Prod.mk segment)).toList :=
  rfl

theorem select_of_items (sequence : v.items? = some items) :
    select segment pointer v =
      if segment = wildcard then .ok (itemsFrom pointer 0 items)
      else if isIndex segment then do
        return ((item? items (← index segment)).map
          fun item => [(pointer ++ "/" ++ segment, item)]).getD []
      else .ok [] := by
  cases v with
  | list _ | tuple _ | set _ =>
      cases sequence
      rfl
  | _ => cases sequence

theorem of_mem_single {found : Option Value} {child : String × Value}
    (member : child ∈ (found.map (Prod.mk segment)).toList) :
    child.1 = segment ∧ found = some child.2 := by
  obtain ⟨v, present, rfl⟩ := Option.map_eq_some_iff.mp (Option.mem_toList.mp member)
  exact ⟨rfl, present⟩

/-- The name of a child is the segment, or a position if the segment is a wildcard. -/
theorem name_of_mem_children {child : String × Value} (member : child ∈ children segment v) :
    child.1 = segment ∨ segment = wildcard ∧
      ∃ items, v.items? = some items ∧ ∃ position < items.length, child.1 = toString position := by
  cases v with
  | list items | tuple items | set items =>
      rw [children_of_items rfl] at member
      split at member
      · rename_i isWildcard
        obtain ⟨item, inside, rfl⟩ := List.mem_map.mp member
        exact .inr ⟨isWildcard, items, rfl, item.2, List.snd_lt_of_mem_zipIdx inside, rfl⟩
      · exact .inl (of_mem_single member).1
  | map entries => exact .inl (of_mem_single member).1
  | _ => cases member

theorem mem_of_itemAt? {position : Int} (present : itemAt? items position = some v) :
    v ∈ items := by
  cases position with
  | ofNat n => exact List.mem_of_getElem? present
  | negSucc n => exact List.mem_reverse.mp (List.mem_of_getElem? present)

/-- A child is an item of a sequence, or what a mapping holds. -/
theorem value_of_mem_children {child : String × Value} (member : child ∈ children segment v) :
    (∃ items, v.items? = some items ∧ child.2 ∈ items) ∨
      ∃ entries, v = .map entries ∧ ∃ entry ∈ entries, entry.2 = child.2 := by
  cases v with
  | list items | tuple items | set items =>
      left
      refine ⟨items, rfl, ?_⟩
      rw [children_of_items rfl] at member
      split at member
      · obtain ⟨item, inside, rfl⟩ := List.mem_map.mp member
        exact List.fst_mem_of_mem_zipIdx inside
      · obtain ⟨position, _, present⟩ := Option.bind_eq_some_iff.mp (of_mem_single member).2
        exact mem_of_itemAt? present
  | map entries =>
      obtain ⟨entry, inside, _, same⟩ := Ordered.exists_mem_of_find? (of_mem_single member).2
      exact .inr ⟨entries, rfl, entry, inside, same⟩
  | _ => cases member

theorem length_children_le (plain : segment ≠ wildcard) : (children segment v).length ≤ 1 := by
  have single (found : Option (String × Value)) : found.toList.length ≤ 1 := by
    cases found <;> simp
  cases v with
  | list items | tuple items | set items =>
      rw [children_of_items rfl, if_neg plain]
      exact single _
  | map entries => exact single _
  | _ => exact Nat.zero_le 1

theorem nodup_names_children (segment : String) (v : Value) :
    ((children segment v).map Prod.fst).Nodup := by
  by_cases plain : segment = wildcard
  · have positions (items : List Value) :
        ((items.zipIdx.map fun item => (toString item.2, item.1)).map Prod.fst).Nodup := by
      rw [List.map_map]
      change (items.zipIdx.map (toString ∘ Prod.snd)).Nodup
      rw [← List.map_map, List.zipIdx_map_snd]
      exact (List.nodup_range' 1).map toString_injective
    cases v with
    | list items | tuple items | set items =>
        rw [children_of_items rfl, if_pos plain]
        exact positions items
    | map entries =>
        rw [children_map]
        cases Value.field? segment entries with
        | none => exact List.nodup_nil
        | some v => exact List.nodup_singleton _
    | _ => exact List.nodup_nil
  · match children segment v, length_children_le (v := v) plain with
    | [], _ => exact List.nodup_nil
    | [_], _ => exact List.nodup_singleton _

theorem itemsFrom_eq (pointer : String) (position : Nat) (items : List Value) :
    itemsFrom pointer position items =
      (items.zipIdx position).map fun item => (pointer ++ "/" ++ toString item.2, item.1) := by
  induction items generalizing position with
  | nil => rfl
  | cons item rest ih => rw [itemsFrom, ih, List.zipIdx_cons, List.map_cons]

theorem item?_eq_itemAt? (items : List Value) (position : Int) :
    item? items position = itemAt? items position := by
  cases position with
  | ofNat n => rfl
  | negSucc n =>
      have negative : Int.negSucc n < 0 := Int.negSucc_lt_zero n
      change item? items (Int.negSucc n) = items.reverse[n]?
      unfold item?
      rw [if_pos negative]
      by_cases inside : n < items.length
      · have place : ((items.length : Int) + Int.negSucc n).toNat = items.length - 1 - n := by omega
        rw [if_pos (by omega), place, List.getElem?_reverse inside]
      · have outside : items.reverse.length ≤ n := by
          rw [List.length_reverse]
          omega
        rw [if_neg (by omega), List.getElem?_eq_none outside]

/-- The children of a part under their pointers. -/
def below (segment : String) (node : String × Value) : Found :=
  (children segment node.2).map fun child => (node.1 ++ "/" ++ child.1, child.2)

/-- A segment selects the children of a part, unless it is no index of a sequence. -/
theorem select_cases (segment : String) (node : String × Value) :
    ((∀ items, node.2.items? = some items → IsReadable segment) ∧
        select segment node.1 node.2 = .ok (below segment node)) ∨
      ((∃ items, node.2.items? = some items) ∧ ¬IsReadable segment ∧
        select segment node.1 node.2 = .error (indexFault segment)) := by
  obtain ⟨pointer, v⟩ := node
  cases sequence : v.items? with
  | none =>
      left
      refine ⟨nofun, ?_⟩
      cases v with
      | list items | tuple items | set items => cases sequence
      | map entries =>
          change Except.ok (((Value.field? segment entries).map
            fun item => [(pointer ++ "/" ++ segment, item)]).getD []) = .ok
              (((Value.field? segment entries).map (Prod.mk segment)).toList.map
                fun child => (pointer ++ "/" ++ child.1, child.2))
          cases Value.field? segment entries <;> rfl
      | _ => rfl
  | some items =>
      dsimp only
      rw [select_of_items sequence, below, children_of_items sequence]
      by_cases isWildcard : segment = wildcard
      · left
        rw [if_pos isWildcard, if_pos isWildcard, itemsFrom_eq, List.map_map]
        refine ⟨fun _ _ isIndex => ?_, rfl⟩
        rw [isWildcard] at isIndex
        cases isIndex
      rw [if_neg isWildcard, if_neg isWildcard]
      cases looksLikeIndex : isIndex segment with
      | false =>
          left
          have noInteger : integer? segment = none := by
            cases written : integer? segment with
            | none => rfl
            | some n => cases (isIndex_of_integer? written).symm.trans looksLikeIndex
          rw [noInteger]
          exact ⟨fun _ _ isIndex => absurd (isIndex.symm.trans looksLikeIndex) (by decide), rfl⟩
      | true =>
          rw [if_pos rfl]
          rcases index_of_isIndex looksLikeIndex with ⟨readable, n, written, read⟩ |
            ⟨unreadable, failed⟩
          · left
            refine ⟨fun _ _ => readable, ?_⟩
            rw [read, written, ok_bind, item?_eq_itemAt?, Option.bind_some]
            cases itemAt? items n <;> rfl
          · right
            rw [failed]
            exact ⟨⟨items, rfl⟩, unreadable, rfl⟩

end Segments

/-! ## Pointers -/

/-- A pointer without a slash at its end is in its last name and what is in front of it. -/
theorem eq_of_append_slash {front other last name : List Char} (lastFree : '/' ∉ last)
    (nameFree : '/' ∉ name) (same : front ++ '/' :: last = other ++ '/' :: name) :
    front = other ∧ last = name := by
  rcases List.append_eq_append_iff.mp same with ⟨between, rfl, behind⟩ | ⟨between, rfl, behind⟩
  · cases between with
    | nil =>
        rw [List.nil_append, List.cons_inj_right] at behind
        exact ⟨(List.append_nil front).symm, behind⟩
    | cons c more =>
        have member : '/' ∈ last := by
          rw [(List.cons_eq_cons.mp behind).2]
          exact List.mem_append_right _ List.mem_cons_self
        exact absurd member lastFree
  · cases between with
    | nil =>
        rw [List.nil_append, List.cons_inj_right] at behind
        exact ⟨List.append_nil other, behind.symm⟩
    | cons c more =>
        have member : '/' ∈ name := by
          rw [(List.cons_eq_cons.mp behind).2]
          exact List.mem_append_right _ List.mem_cons_self
        exact absurd member nameFree

theorem slash_not_mem_toString (position : Nat) : '/' ∉ (toString position).toList := by
  intro member
  cases isAsciiDigit_of_mem_toString member

/-- Children of two parts under one pointer are children of the same part. -/
theorem eq_of_child_pointers {segment first second : String} {v w : Value}
    {child other : String × Value} (childOf : child ∈ children segment v)
    (otherOf : other ∈ children segment w)
    (same : first ++ "/" ++ child.1 = second ++ "/" ++ other.1) : first = second := by
  by_cases plain : segment = wildcard
  · have free {v : Value} {child : String × Value} (member : child ∈ children segment v) :
        '/' ∉ child.1.toList := by
      rcases name_of_mem_children member with name | ⟨_, _, _, position, _, name⟩
      · rw [name, plain]
        decide
      · rw [name]
        exact slash_not_mem_toString position
    have chars := congrArg String.toList same
    simp only [String.toList_append, List.append_assoc] at chars
    exact String.toList_inj.mp (eq_of_append_slash (free childOf) (free otherOf) chars).1
  · have name {v : Value} {child : String × Value} (member : child ∈ children segment v) :
        child.1 = segment := by
      rcases name_of_mem_children member with name | ⟨isWildcard, _⟩
      · exact name
      · exact absurd isWildcard plain
    rw [name childOf, name otherOf] at same
    exact (String.append_left_inj "/").mp ((String.append_left_inj segment).mp same)

theorem nodup_below {nodes : Found} (distinct : (nodes.map Prod.fst).Nodup) (segment : String) :
    ((nodes.flatMap (below segment)).map Prod.fst).Nodup := by
  rw [List.map_flatMap]
  apply List.nodup_flatMap.mpr
  constructor
  · intro node _
    have names := nodup_names_children segment node.2
    have pointers : (below segment node).map Prod.fst =
        ((children segment node.2).map Prod.fst).map fun name => node.1 ++ "/" ++ name := by
      simp only [below, List.map_map, Function.comp_def]
    rw [pointers]
    exact names.map fun _ _ same => (String.append_right_inj _).mp same
  · apply (List.pairwise_map.mp distinct).imp
    intro first second apart pointer inFirst inSecond
    obtain ⟨_, firstMember, rfl⟩ := List.mem_map.mp inFirst
    obtain ⟨_, secondMember, same⟩ := List.mem_map.mp inSecond
    obtain ⟨child, childOf, rfl⟩ := List.mem_map.mp firstMember
    obtain ⟨other, otherOf, rfl⟩ := List.mem_map.mp secondMember
    exact apart (eq_of_child_pointers otherOf childOf same).symm

/-! ## All segments -/

theorem follow_cases (segment : String) (matched nodes : Found)
    (distinct : ((matched ++ nodes.flatMap (below segment)).map Prod.fst).Nodup) :
    ((∀ node ∈ nodes, ∀ items, node.2.items? = some items → IsReadable segment) ∧
        follow segment matched nodes = .ok (matched ++ nodes.flatMap (below segment))) ∨
      ((∃ node ∈ nodes, ∃ items, node.2.items? = some items) ∧ ¬IsReadable segment ∧
        follow segment matched nodes = .error (indexFault segment)) := by
  induction nodes generalizing matched with
  | nil =>
      left
      exact ⟨List.forall_mem_nil _, by simp [follow]⟩
  | cons node rest ih =>
      rw [List.flatMap_cons, ← List.append_assoc] at distinct ⊢
      rcases select_cases segment node with ⟨fits, selected⟩ | ⟨sequence, unreadable, failed⟩
      · have stored : Ordered.putAll matched (below segment node) =
            matched ++ below segment node := by
          apply Ordered.putAll_of_nodup
          rw [List.map_append] at distinct
          exact (List.nodup_append.mp distinct).1
        have step : follow segment matched (node :: rest) =
            follow segment (matched ++ below segment node) rest := by
          rw [follow, selected, ok_bind, stored]
        rw [step]
        rcases ih _ distinct with ⟨others, success⟩ |
          ⟨⟨other, member, sequence⟩, unreadable, failed⟩
        · exact .inl ⟨List.forall_mem_cons.mpr ⟨fits, others⟩, success⟩
        · exact .inr ⟨⟨other, List.mem_cons_of_mem _ member, sequence⟩, unreadable, failed⟩
      · right
        refine ⟨⟨node, List.mem_cons_self, sequence⟩, unreadable, ?_⟩
        rw [follow, failed]
        rfl

/-- The parts that segments lead to from parts with pointers, under their own pointers. -/
def locatedFrom (segments : List String) (nodes : Found) : Found :=
  nodes.flatMap fun node =>
    (located segments node.2).map fun part => (pointerFrom node.1 part.1, part.2)

theorem locatedFrom_cons (segment : String) (rest : List String) (nodes : Found) :
    locatedFrom (segment :: rest) nodes = locatedFrom rest (nodes.flatMap (below segment)) := by
  simp only [locatedFrom, located, below, List.flatMap_assoc, List.map_flatMap, List.flatMap_map,
    List.map_map]
  rfl

/-- All segments are followed to the parts that they lead to, unless one of them blocks. -/
theorem followAll_cases (segments : List String) (nodes : Found)
    (distinct : (nodes.map Prod.fst).Nodup) :
    ((∀ node ∈ nodes, ∀ segment, ¬Blocks segment segments node.2) ∧
        followAll segments nodes = .ok (locatedFrom segments nodes) ∧
        ((locatedFrom segments nodes).map Prod.fst).Nodup) ∨
      ∃ segment, (∃ node ∈ nodes, Blocks segment segments node.2) ∧
        followAll segments nodes = .error (indexFault segment) := by
  induction segments generalizing nodes with
  | nil =>
      have root : locatedFrom [] nodes = nodes := by
        simp [locatedFrom, located, pointerFrom]
      left
      rw [root]
      exact ⟨nofun, rfl, distinct⟩
  | cons segment rest ih =>
      have later := nodup_below distinct segment
      rw [locatedFrom_cons]
      rcases follow_cases segment [] nodes later with ⟨fits, followed⟩ |
        ⟨⟨node, member, items, sequence⟩, unreadable, failed⟩
      · have step : followAll (segment :: rest) nodes =
            followAll rest (nodes.flatMap (below segment)) := by
          rw [followAll, followed, ok_bind, List.nil_append]
        rw [step]
        rcases ih _ later with ⟨free, success, pointers⟩ |
          ⟨blocking, ⟨part, member, blocks⟩, failed⟩
        · left
          refine ⟨?_, success, pointers⟩
          intro node member blocking blocks
          cases blocks with
          | here sequence unreadable => exact unreadable (fits node member _ sequence)
          | @there _ _ _ child childOf blocks =>
              have inside : (node.1 ++ "/" ++ child.1, child.2) ∈ nodes.flatMap (below segment) :=
                List.mem_flatMap.mpr ⟨node, member, List.mem_map_of_mem childOf⟩
              exact free _ inside blocking blocks
        · right
          obtain ⟨node, nodeMember, inside⟩ := List.mem_flatMap.mp member
          obtain ⟨child, childOf, rfl⟩ := List.mem_map.mp inside
          exact ⟨blocking, ⟨node, nodeMember, .there childOf blocks⟩, failed⟩
      · right
        refine ⟨segment, ⟨node, member, .here sequence unreadable⟩, ?_⟩
        rw [followAll, failed]
        rfl

/-! ## Lookups -/

theorem pointerFrom_eq_append (pointer : String) (names : List String) :
    pointerFrom pointer names = pointer ++ pointerFrom "" names := by
  induction names generalizing pointer with
  | nil => exact (String.append_empty).symm
  | cons name rest ih =>
      change pointerFrom (pointer ++ "/" ++ name) rest =
        pointer ++ pointerFrom ("" ++ "/" ++ name) rest
      rw [ih, ih ("" ++ "/" ++ name)]
      simp only [String.append_assoc, String.empty_append]

theorem pointerTo_cons (name : String) (rest : List String) :
    pointerTo (name :: rest) = "/" ++ name ++ pointerFrom "" rest := by
  change pointerFrom ("" ++ "/" ++ name) rest = _
  rw [pointerFrom_eq_append, String.empty_append]

/-- The whole value is the only part whose pointer is written differently in the end. -/
theorem pointerTo_eq (names : List String) :
    pointerTo names = if (pointerFrom "" names).isEmpty then "/" else pointerFrom "" names := by
  cases names with
  | nil => rfl
  | cons name rest =>
      have written : pointerFrom "" (name :: rest) = "/" ++ name ++ pointerFrom "" rest :=
        pointerTo_cons name rest
      have nonempty : (pointerFrom "" (name :: rest)).isEmpty = false := by
        rw [Bool.eq_false_iff, written]
        simp [String.isEmpty_iff]
      rw [nonempty]
      rfl

/-- What a lookup finds: the parts that its segments lead to, with their pointers. -/
def reported (segments : List String) (v : Value) : Found :=
  (located segments v).map fun part => (pointerTo part.1, part.2)

theorem pointers_reported (segments : List String) (v : Value) :
    (reported segments v).map Prod.fst = (located segments v).map fun part => pointerTo part.1 :=
  List.map_map

theorem nodup_pointers_reported {segments : List String} {v : Value}
    (distinct : ((locatedFrom segments [("", v)]).map Prod.fst).Nodup) :
    ((reported segments v).map Prod.fst).Nodup := by
  cases segments with
  | nil => exact List.nodup_singleton _
  | cons segment rest =>
      have pointers : (locatedFrom (segment :: rest) [("", v)]).map Prod.fst =
          (located (segment :: rest) v).map fun part => pointerFrom "" part.1 := by
        simp only [locatedFrom, List.flatMap_cons, List.flatMap_nil, List.append_nil, List.map_map,
          Function.comp_def]
      rw [pointers_reported]
      rw [pointers] at distinct
      have same : ∀ part ∈ located (segment :: rest) v,
          pointerTo part.1 = pointerFrom "" part.1 := by
        intro part member
        obtain ⟨child, _, other, _, rfl⟩ := exists_child_of_mem_located member
        rfl
      rw [List.map_congr_left same]
      exact distinct

theorem findAll_cases (lookup : Lookup) (v : Value) :
    ((∀ segment, ¬Blocks segment lookup.segments v) ∧
        lookup.findAll v = .ok (reported lookup.segments v) ∧
        ((reported lookup.segments v).map Prod.fst).Nodup) ∨
      ∃ segment, Blocks segment lookup.segments v ∧
        lookup.findAll v = .error (indexFault segment) := by
  rcases followAll_cases lookup.segments [("", v)] (List.nodup_singleton _) with
    ⟨free, success, distinct⟩ | ⟨segment, ⟨node, member, blocks⟩, failed⟩
  · left
    refine ⟨free _ List.mem_cons_self, ?_, nodup_pointers_reported distinct⟩
    unfold findAll
    rw [success]
    change Except.ok _ = Except.ok _
    simp only [locatedFrom, reported, List.flatMap_cons, List.flatMap_nil, List.append_nil,
      List.map_map, Function.comp_def, pointerTo_eq]
  · right
    rw [List.mem_singleton.mp member] at blocks
    refine ⟨segment, blocks, ?_⟩
    unfold findAll
    rw [failed]
    rfl

section Results

variable {lookup : Lookup} {v : Value} {found : Found}

theorem exists?_eq (success : lookup.findAll v = .ok found) :
    lookup.exists? v = .ok (!found.isEmpty) := by
  unfold exists?
  rw [success]
  rfl

theorem resolve_eq (success : lookup.findAll v = .ok found) :
    lookup.resolve v = .ok (if lookup.hasWildcard then .list (found.map Prod.snd)
      else (found.map Prod.snd).head?.getD .null) := by
  unfold resolve
  rw [success, ok_bind]
  cases lookup.hasWildcard with
  | true => rfl
  | false => cases found <;> rfl

theorem exists?_of_error {fault : Fault} (failed : lookup.findAll v = .error fault) :
    lookup.exists? v = .error fault := by
  unfold exists?
  rw [failed]
  rfl

theorem resolve_of_error {fault : Fault} (failed : lookup.findAll v = .error fault) :
    lookup.resolve v = .error fault := by
  unfold resolve
  rw [failed]
  rfl

end Results

theorem length_located_le {segments : List String} (plain : wildcard ∉ segments) (v : Value) :
    (located segments v).length ≤ 1 := by
  induction segments generalizing v with
  | nil => exact Nat.le_refl 1
  | cons segment rest ih =>
      rw [List.mem_cons, not_or] at plain
      have children_le := length_children_le (v := v) (Ne.symm plain.1)
      unfold located
      match children segment v, children_le with
      | [], _ => exact Nat.zero_le 1
      | [child], _ =>
          rw [List.flatMap_cons, List.flatMap_nil, List.append_nil, List.length_map]
          exact ih plain.2 child.2

/-- A lookup whose indices can be read finds the parts that a walk through the value meets, one
after the other and each under a pointer of its own. -/
theorem findAll_enumerates (path : String)
    (readable : ∀ segment ∈ (ofPath path).segments, IsReadable segment) (v : Value) :
    let lookup := ofPath path
    let parts := (located lookup.segments v).map Prod.snd
    ∃ found, lookup.findAll v = .ok found ∧ found.map Prod.snd = parts ∧
      (found.map Prod.fst).Nodup ∧
      (lookup.hasWildcard = false → found.length ≤ 1) ∧
      lookup.exists? v = .ok (!parts.isEmpty) ∧
      lookup.resolve v =
        .ok (if lookup.hasWildcard then .list parts else parts.head?.getD .null) := by
  intro lookup parts
  rcases findAll_cases lookup v with ⟨_, success, distinct⟩ | ⟨segment, blocks, _⟩
  · have values : (reported lookup.segments v).map Prod.snd = parts := List.map_map
    refine ⟨_, success, values, distinct, ?_, ?_, ?_⟩
    · intro plain
      unfold reported
      rw [List.length_map]
      apply length_located_le
      intro member
      rw [hasWildcard, List.contains_iff_mem.mpr member] at plain
      cases plain
    · rw [exists?_eq success, ← values, List.isEmpty_map]
    · rw [resolve_eq success, values]
  · exact absurd (readable segment blocks.not_isReadable.1) blocks.not_isReadable.2

/-- Items of several kinds, of which some have no last item and one is a mapping with the segment as
its key. -/
theorem findAll_enumerates_last_items :
    let v : Value := .map [(.text "items", .list [.list [.int 1, .int 2],
      .map [(.text "-1", .int 3)], .list [], .text "x", .tuple [.int 4]])]
    (∀ segment ∈ (ofPath "items.*.-1").segments, IsReadable segment) ∧
      (ofPath "items.*.-1").hasWildcard = true ∧
      (ofPath "items.*.-1").exists? v = .ok true ∧
      (ofPath "items.*.-1").resolve v = .ok (.list [.int 2, .int 3, .int 4]) := by
  intro v
  have readable : ∀ segment ∈ (ofPath "items.*.-1").segments, IsReadable segment := by
    decide +kernel
  have several : (ofPath "items.*.-1").hasWildcard = true := by decide +kernel
  obtain ⟨found, _, _, _, _, present, resolved⟩ := findAll_enumerates "items.*.-1" readable v
  have segments : (ofPath "items.*.-1").segments = ["items", "*", "-1"] := by decide +kernel
  have parts : (located ["items", "*", "-1"] v).map Prod.snd = [.int 2, .int 3, .int 4] := rfl
  rw [segments, parts] at present resolved
  rw [several] at resolved
  exact ⟨readable, several, present, resolved⟩

/-- A lookup has an end unless a segment of its path blocks it.  If it has, everything that does not
match is left out; if not, the segment that is no index is the fault of each way to ask. -/
theorem findAll_returns_unless_blocked (path : String) (v : Value) :
    let lookup := ofPath path
    (Succeeds (lookup.findAll v) ↔ ¬∃ segment, Blocks segment lookup.segments v) ∧
      (∀ found, lookup.findAll v = .ok found →
        found = reported lookup.segments v ∧ Succeeds (lookup.resolve v) ∧
          Succeeds (lookup.exists? v)) ∧
      ∀ fault, lookup.findAll v = .error fault →
        (∃ segment, Blocks segment lookup.segments v ∧ fault = indexFault segment) ∧
          lookup.resolve v = .error fault ∧ lookup.exists? v = .error fault := by
  intro lookup
  have ways := findAll_cases lookup v
  refine ⟨?returns, ?found, ?fails⟩
  case returns =>
    rcases ways with ⟨free, success, _⟩ | ⟨segment, blocks, failed⟩
    · rw [success]
      exact iff_of_true (succeeds_ok _) fun ⟨segment, blocks⟩ => free segment blocks
    · rw [failed]
      exact iff_of_false (not_succeeds_error _) (not_not_intro ⟨segment, blocks⟩)
  case found =>
    intro found success
    refine ⟨?_, ⟨_, resolve_eq success⟩, ⟨_, exists?_eq success⟩⟩
    rcases ways with ⟨_, all, _⟩ | ⟨_, _, failed⟩
    · exact Except.ok.inj (success.symm.trans all)
    · cases success.symm.trans failed
  case fails =>
    intro fault failed
    refine ⟨?_, resolve_of_error failed, exists?_of_error failed⟩
    rcases ways with ⟨_, success, _⟩ | ⟨segment, blocks, why⟩
    · cases failed.symm.trans success
    · exact ⟨segment, blocks, Except.error.inj (failed.symm.trans why)⟩

/-- Two dashes and a digit are taken for an index of a list. -/
theorem findAll_two_dashes :
    (ofPath "--1").findAll (.list [.int 1, .int 2]) = .error (.integerText 10 "'--1'") ∧
      ¬Succeeds ((ofPath "--1").findAll (.list [.int 1, .int 2])) := by
  have failed : (ofPath "--1").findAll (.list [.int 1, .int 2]) =
      .error (.integerText 10 "'--1'") := rfl
  refine ⟨failed, ?_⟩
  rw [failed]
  exact not_succeeds_error _

end Lookup

end Playbook
