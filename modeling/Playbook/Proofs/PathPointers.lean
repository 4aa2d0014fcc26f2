import Playbook.Proofs.PathMatches

/-!
# Pointers that lead back

A pointer is a path itself: the names on the way to a part, each behind a slash.  A lookup that
reads it splits it at the slashes and drops its outer blanks.  So the pointers that a path leads to
lead back to their parts, whatever the value is, if and only if no segment of the path holds a
slash and the last one does not end in a blank.
-/

namespace Playbook

namespace Value

mutual

/-- Values whose sequences are not too long for their positions to be read. -/
def isIndexable : Value → Bool
  | .list items | .tuple items | .set items =>
      items.length ≤ tenTo Numeral.digitLimit && itemsAreIndexable items
  | .map entries => entriesAreIndexable entries
  | _ => true

def itemsAreIndexable : List Value → Bool
  | [] => true
  | v :: rest => isIndexable v && itemsAreIndexable rest

def entriesAreIndexable : List (Value × Value) → Bool
  | [] => true
  | (_, v) :: rest => isIndexable v && entriesAreIndexable rest

end

theorem itemsAreIndexable_iff {items : List Value} :
    itemsAreIndexable items = true ↔ ∀ v ∈ items, v.isIndexable = true := by
  induction items with
  | nil => simp [itemsAreIndexable]
  | cons v rest ih => simp [itemsAreIndexable, ih]

theorem entriesAreIndexable_iff {entries : List (Value × Value)} :
    entriesAreIndexable entries = true ↔ ∀ entry ∈ entries, entry.2.isIndexable = true := by
  induction entries with
  | nil => simp [entriesAreIndexable]
  | cons entry rest ih => simp [entriesAreIndexable, ih]

theorem isIndexable_items {v : Value} (indexable : v.isIndexable = true) {items : List Value}
    (sequence : v.items? = some items) :
    items.length ≤ tenTo Numeral.digitLimit ∧ itemsAreIndexable items = true := by
  cases v with
  | list _ | tuple _ | set _ =>
      cases sequence
      rw [isIndexable, Bool.and_eq_true, decide_eq_true_eq] at indexable
      exact indexable
  | _ => cases sequence

end Value

namespace Text

theorem dropEndWhile_eq_self {test : Char → Bool} {s : String}
    (inside : ∀ c ∈ s.toList, test c = false) : dropEndWhile test s = s := by
  have kept : s.toList.reverse.dropWhile test = s.toList.reverse := by
    apply dropWhile_append_of_stop (List.forall_mem_nil _)
    intro c first
    exact inside c (List.mem_reverse.mp (List.mem_of_head? first))
  rw [dropEndWhile, kept, List.reverse_reverse, String.ofList_toList]

end Text

namespace Lookup

/-! ## The names on the way to a part -/

section Names

variable {segments : List String} {v : Value}

theorem toString_ne_wildcard (position : Nat) : toString position ≠ wildcard := by
  intro same
  have read := integer?_toString position
  rw [same] at read
  cases read

/-- The name of a child selects the child and nothing else. -/
theorem children_of_name {segment : String} {child : String × Value}
    (member : child ∈ children segment v) : children child.1 v = [child] := by
  cases v with
  | list items | tuple items | set items =>
      rw [children_of_items rfl] at member ⊢
      by_cases isWildcard : segment = wildcard
      · rw [if_pos isWildcard] at member
        obtain ⟨⟨v, position⟩, inside, rfl⟩ := List.mem_map.mp member
        have present : itemAt? items (position : Int) = some v :=
          List.mem_zipIdx_iff_getElem?.mp inside
        dsimp only
        rw [if_neg (toString_ne_wildcard position), integer?_toString, Option.bind_some, present]
        rfl
      · rw [if_neg isWildcard] at member
        obtain ⟨name, selected⟩ := of_mem_single member
        rw [name, if_neg isWildcard, selected, ← name]
        rfl
  | map entries =>
      obtain ⟨name, present⟩ := of_mem_single member
      rw [name, children_map, present, ← name]
      rfl
  | _ => cases member

/-- The names on the way to a part lead to the part and nothing else. -/
theorem located_names {part : List String × Value} (member : part ∈ located segments v) :
    located part.1 v = [part] := by
  induction segments generalizing v part with
  | nil =>
      rw [List.mem_singleton.mp member]
      rfl
  | cons segment rest ih =>
      obtain ⟨child, childOf, other, otherOf, rfl⟩ := exists_child_of_mem_located member
      rw [located, children_of_name childOf, List.flatMap_singleton, ih otherOf]
      rfl

/-- The names on the way to a part are the segments, with positions in the place of wildcards. -/
theorem forall₂_names {part : List String × Value} (member : part ∈ located segments v) :
    List.Forall₂ (fun segment name => name = segment ∨ ∃ position : Nat, name = toString position)
      segments part.1 := by
  induction segments generalizing v part with
  | nil =>
      rw [List.mem_singleton.mp member]
      exact .nil
  | cons segment rest ih =>
      obtain ⟨child, childOf, other, otherOf, rfl⟩ := exists_child_of_mem_located member
      refine .cons ?_ (ih otherOf)
      rcases name_of_mem_children childOf with same | ⟨_, _, _, position, _, same⟩
      · exact .inl same
      · exact .inr ⟨position, same⟩

theorem isReadable_toString {position : Nat} (short : position < tenTo Numeral.digitLimit) :
    IsReadable (toString position) := by
  intro _
  have length := Json.length_toDigits_le (by decide) short
  obtain ⟨c, rest, written, digit⟩ := Json.exists_toDigits_eq_cons position
  have noDash : c ≠ '-' := by
    rintro rfl
    cases digit
  rw [toList_toString]
  refine ⟨?_, Nat.le_trans (List.dropWhile_suffix _).length_le length⟩
  rw [written]
  simp [noDash]

theorem isIndexable_of_mem_children {segment : String} {child : String × Value}
    (indexable : v.isIndexable = true) (member : child ∈ children segment v) :
    child.2.isIndexable = true := by
  rcases value_of_mem_children member with ⟨items, sequence, inside⟩ |
    ⟨entries, rfl, entry, inside, same⟩
  · exact Value.itemsAreIndexable_iff.mp (Value.isIndexable_items indexable sequence).2 _ inside
  · rw [← same]
    exact Value.entriesAreIndexable_iff.mp indexable entry inside

/-- Where no segment blocks the way, the names on it do not either. -/
theorem not_blocks_names {part : List String × Value} (indexable : v.isIndexable = true)
    (free : ∀ segment, ¬Blocks segment segments v) (member : part ∈ located segments v)
    (name : String) : ¬Blocks name part.1 v := by
  induction segments generalizing v part with
  | nil =>
      rw [List.mem_singleton.mp member]
      nofun
  | cons segment rest ih =>
      obtain ⟨child, childOf, other, otherOf, rfl⟩ := exists_child_of_mem_located member
      intro blocks
      cases blocks with
      | here sequence unreadable =>
          rcases name_of_mem_children childOf with same |
            ⟨_, items, isSequence, position, lower, same⟩
          · rw [same] at unreadable
            exact free segment (.here sequence unreadable)
          · have short := (Value.isIndexable_items indexable isSequence).1
            rw [same] at unreadable
            exact unreadable (isReadable_toString (Nat.lt_of_lt_of_le lower short))
      | there nextOf blocks =>
          rw [children_of_name childOf] at nextOf
          rw [List.mem_singleton.mp nextOf] at blocks
          exact ih (isIndexable_of_mem_children indexable childOf)
            (fun segment blocks => free segment (.there childOf blocks)) otherOf blocks

end Names

/-! ## Reading a pointer -/

/-- Segments that pointers keep: none holds a slash, and the last one does not end in a blank. -/
def ArePointable (segments : List String) : Prop :=
  (∀ segment ∈ segments, '/' ∉ segment.toList) ∧
    ∀ last ∈ segments.getLast?, Text.dropEndWhile Text.isBlank last = last

instance (segments : List String) : Decidable (ArePointable segments) :=
  inferInstanceAs (Decidable (_ ∧ _))

/-- The characters of a pointer. -/
def slashed (names : List String) : List Char := names.flatMap fun name => '/' :: name.toList

section Reading

variable {names front : List String} {last : String}

theorem toList_pointerFrom (names : List String) :
    (pointerFrom "" names).toList = slashed names := by
  induction names with
  | nil => rfl
  | cons name rest ih =>
      have written : pointerFrom "" (name :: rest) = "/" ++ name ++ pointerFrom "" rest :=
        pointerTo_cons name rest
      rw [written, String.toList_append, String.toList_append, ih]
      rfl

theorem toList_pointerTo_concat (front : List String) (last : String) :
    (pointerTo (front ++ [last])).toList = slashed (front ++ [last]) := by
  have nonempty : (front ++ [last]).isEmpty = false := by simp
  rw [pointerTo, nonempty]
  exact toList_pointerFrom _

theorem exists_slashed_eq_cons (front : List String) (last : String) :
    ∃ rest, slashed (front ++ [last]) = '/' :: rest := by
  cases front with
  | nil => exact ⟨_, rfl⟩
  | cons name more => exact ⟨_, rfl⟩

/-- Blanks are dropped at the end of the last name only. -/
theorem trim_slashed (front : List String) (last : String) :
    Text.trim (slashed (front ++ [last])) =
      slashed (front ++ [Text.dropEndWhile Text.isBlank last]) := by
  have outer : (slashed (front ++ [last])).dropWhile Text.isBlank = slashed (front ++ [last]) := by
    obtain ⟨rest, written⟩ := exists_slashed_eq_cons front last
    rw [written, List.dropWhile_cons_of_neg (by decide)]
  have parts (last : String) : slashed (front ++ [last]) = slashed front ++ '/' :: last.toList := by
    simp [slashed]
  unfold Text.trim Text.trimWhile
  rw [outer, parts, parts, List.reverse_append, List.reverse_cons, List.append_assoc,
    List.dropWhile_append, Text.dropEndWhile, String.toList_ofList]
  split
  · rename_i blank
    rw [List.isEmpty_iff.mp blank, List.singleton_append, List.dropWhile_cons_of_neg (by decide)]
    simp
  · simp

theorem splitOnChar_slashed {piece : List Char} (pieceFree : '/' ∉ piece)
    (free : ∀ name ∈ names, '/' ∉ name.toList) :
    Text.splitOnChar '/' (piece ++ slashed names) = piece :: names.map String.toList := by
  induction names generalizing piece with
  | nil =>
      change Text.splitOnChar '/' (piece ++ []) = [piece]
      rw [List.append_nil, Text.splitOnChar_of_not_mem pieceFree]
  | cons name rest ih =>
      obtain ⟨here, later⟩ := List.forall_mem_cons.mp free
      change Text.splitOnChar '/' (piece ++ '/' :: (name.toList ++ slashed rest)) = _
      rw [Text.splitOnChar_append pieceFree, ih here later]
      rfl

theorem segments_nonempty (path : String) : ∀ segment ∈ (ofPath path).segments, segment ≠ "" := by
  intro segment member
  obtain ⟨piece, inside, rfl⟩ := List.mem_map.mp member
  have nonempty := (List.mem_filter.mp inside).2
  rintro empty
  rw [← String.toList_inj, String.toList_ofList] at empty
  rw [empty] at nonempty
  cases nonempty

/-- A pointer is split at its slashes. -/
theorem ofPath_pointerTo (front : List String) (last : String) :
    (ofPath (pointerTo (front ++ [last]))).segments =
      ((Text.splitOnChar '/' (slashed (front ++ [Text.dropEndWhile Text.isBlank last]))).filter
        fun piece => !piece.isEmpty).map String.ofList := by
  unfold ofPath
  rw [toList_pointerTo_concat, trim_slashed]
  obtain ⟨rest, written⟩ := exists_slashed_eq_cons front (Text.dropEndWhile Text.isBlank last)
  rw [written]
  rfl

theorem slash_not_mem_segments (front : List String) (last : String) :
    ∀ segment ∈ (ofPath (pointerTo (front ++ [last]))).segments, '/' ∉ segment.toList := by
  rw [ofPath_pointerTo]
  intro segment member
  obtain ⟨piece, inside, rfl⟩ := List.mem_map.mp member
  rw [String.toList_ofList]
  exact Text.not_mem_of_mem_splitOnChar (List.mem_filter.mp inside).1

/-- The names in a pointer are read back, but for blanks at the end of the last one. -/
theorem segments_pointerTo (free : ∀ name ∈ front ++ [last], '/' ∉ name.toList) :
    (ofPath (pointerTo (front ++ [last]))).segments =
      (front ++ [Text.dropEndWhile Text.isBlank last]).filter fun name => !name.isEmpty := by
  have lastFree : '/' ∉ (Text.dropEndWhile Text.isBlank last).toList := by
    intro member
    rw [Text.dropEndWhile, String.toList_ofList, List.mem_reverse] at member
    have inside := (List.dropWhile_suffix _).subset member
    exact free last (List.mem_append_right _ List.mem_cons_self) (List.mem_reverse.mp inside)
  have trimmedFree : ∀ name ∈ front ++ [Text.dropEndWhile Text.isBlank last],
      '/' ∉ name.toList := by
    intro name member
    rcases List.mem_append.mp member with early | late
    · exact free name (List.mem_append_left _ early)
    · rw [List.mem_singleton.mp late]
      exact lastFree
  have split := splitOnChar_slashed List.not_mem_nil trimmedFree
  have isEmpty (name : String) : name.toList.isEmpty = name.isEmpty := by
    rw [Bool.eq_iff_iff, List.isEmpty_iff, String.isEmpty_iff, String.toList_eq_nil_iff]
  rw [List.nil_append] at split
  rw [ofPath_pointerTo, split, List.filter_cons_of_neg (by simp), List.filter_map, List.map_map]
  simp only [Function.comp_def, String.ofList_toList, isEmpty, List.map_id']

end Reading

/-! ## Leading back -/

section Back

variable {segments names : List String} {v : Value}

theorem exists_mem_getLast?_of_forall₂ {α β : Type} {related : α → β → Prop} {as : List α}
    {bs : List β} (pairs : List.Forall₂ related as bs) {b : β} (member : b ∈ bs.getLast?) :
    ∃ a ∈ as.getLast?, related a b := by
  induction pairs with
  | nil => cases member
  | cons pair rest ih =>
      cases rest with
      | nil =>
          cases member
          exact ⟨_, rfl, pair⟩
      | cons _ _ =>
          rw [List.getLast?_cons_cons] at member ⊢
          exact ih member

theorem exists_mem_of_forall₂ {α β : Type} {related : α → β → Prop} {as : List α} {bs : List β}
    (pairs : List.Forall₂ related as bs) {b : β} (member : b ∈ bs) : ∃ a ∈ as, related a b := by
  induction pairs with
  | nil => cases member
  | cons pair _ ih =>
      rcases List.mem_cons.mp member with rfl | later
      · exact ⟨_, List.mem_cons_self, pair⟩
      · obtain ⟨a, inside, pair⟩ := ih later
        exact ⟨a, List.mem_cons_of_mem _ inside, pair⟩

/-- Positions in the place of wildcards are no obstacle to a pointer. -/
theorem arePointable_names {part : List String × Value} (pointable : ArePointable segments)
    (member : part ∈ located segments v) : ArePointable part.1 := by
  have pairs := forall₂_names member
  constructor
  · intro name inside
    obtain ⟨segment, segmentMember, rfl | ⟨position, rfl⟩⟩ := exists_mem_of_forall₂ pairs inside
    · exact pointable.1 _ segmentMember
    · exact slash_not_mem_toString position
  · intro name isLast
    obtain ⟨segment, lastSegment, rfl | ⟨position, rfl⟩⟩ :=
      exists_mem_getLast?_of_forall₂ pairs isLast
    · exact pointable.2 _ lastSegment
    · apply Text.dropEndWhile_eq_self
      intro c member
      apply Text.isBlank_eq_false_of_isDigit
      rw [Text.isDigit, Numeral.digitValue?_of_isAsciiDigit (isAsciiDigit_of_mem_toString member)]
      rfl

theorem names_nonempty {part : List String × Value} (nonempty : ∀ segment ∈ segments, segment ≠ "")
    (member : part ∈ located segments v) : ∀ name ∈ part.1, name ≠ "" := by
  intro name inside
  obtain ⟨segment, segmentMember, rfl | ⟨position, rfl⟩⟩ :=
    exists_mem_of_forall₂ (forall₂_names member) inside
  · exact nonempty _ segmentMember
  · intro empty
    have read := integer?_toString position
    rw [empty] at read
    cases read

/-- Names that pointers keep are read back as they are. -/
theorem segments_of_arePointable (pointable : ArePointable names)
    (nonempty : ∀ name ∈ names, name ≠ "") : (ofPath (pointerTo names)).segments = names := by
  rcases List.eq_nil_or_concat' names with rfl | ⟨front, last, rfl⟩
  · rfl
  · have kept : Text.dropEndWhile Text.isBlank last = last := pointable.2 last List.getLast?_concat
    rw [segments_pointerTo pointable.1, kept, List.filter_eq_self]
    intro name member
    simpa [String.isEmpty_iff] using nonempty name member

/-- Names that are read back as they are, are names that pointers keep. -/
theorem arePointable_of_segments (nonempty : ∀ name ∈ names, name ≠ "")
    (same : (ofPath (pointerTo names)).segments = names) : ArePointable names := by
  rcases List.eq_nil_or_concat' names with rfl | ⟨front, last, rfl⟩
  · exact ⟨List.forall_mem_nil _, nofun⟩
  have free := slash_not_mem_segments front last
  rw [same] at free
  refine ⟨free, ?_⟩
  intro name isLast
  rw [List.getLast?_concat] at isLast
  cases isLast
  have kept : (front.filter fun name => !name.isEmpty) = front := by
    rw [List.filter_eq_self]
    intro name member
    simpa [String.isEmpty_iff] using nonempty name (List.mem_append_left _ member)
  rw [segments_pointerTo free, List.filter_append, kept, List.append_cancel_left_eq] at same
  cases empty : (Text.dropEndWhile Text.isBlank last).isEmpty with
  | true => simp [empty] at same
  | false => simpa [empty] using same

/-- The pointer to a part leads to this part and nothing else. -/
theorem findAll_pointerTo {part : List String × Value} (pointable : ArePointable segments)
    (nonempty : ∀ segment ∈ segments, segment ≠ "") (indexable : v.isIndexable = true)
    (free : ∀ segment, ¬Blocks segment segments v) (placed : part ∈ located segments v) :
    (ofPath (pointerTo part.1)).findAll v = .ok [(pointerTo part.1, part.2)] := by
  have read : (ofPath (pointerTo part.1)).segments = part.1 :=
    segments_of_arePointable (arePointable_names pointable placed) (names_nonempty nonempty placed)
  rcases findAll_cases (ofPath (pointerTo part.1)) v with ⟨_, back, _⟩ | ⟨name, blocks, _⟩
  · rw [back, read, reported, located_names placed]
    rfl
  · rw [read] at blocks
    exact absurd blocks (not_blocks_names indexable free placed name)

/-- A value with a single leaf, the one that names lead to. -/
def nested : List String → Value
  | [] => .null
  | name :: rest => .map [(.text name, nested rest)]

theorem isIndexable_nested (names : List String) : (nested names).isIndexable = true := by
  induction names with
  | nil => rfl
  | cons name rest ih => simp [nested, Value.isIndexable, Value.entriesAreIndexable, ih]

theorem mem_children_nested {segment : String} {child : String × Value}
    (member : child ∈ children segment (nested names)) :
    ∃ rest, names = segment :: rest ∧ child = (segment, nested rest) := by
  cases names with
  | nil => cases member
  | cons name rest =>
      obtain ⟨same, present⟩ := of_mem_single member
      obtain ⟨entry, inside, key, held⟩ := Ordered.exists_mem_of_find? present
      rw [List.mem_singleton.mp inside] at key held
      cases Value.beq_text_iff.mp key
      exact ⟨rest, rfl, Prod.ext same held.symm⟩

theorem located_nested (names : List String) : located names (nested names) = [(names, .null)] := by
  induction names with
  | nil => rfl
  | cons name rest ih =>
      have only : children name (nested (name :: rest)) = [(name, nested rest)] := by
        have present : Value.field? name [(.text name, nested rest)] = some (nested rest) :=
          Value.field?_put_self name (nested rest) []
        rw [nested, children_map, present]
        rfl
      rw [located, only, List.flatMap_singleton, ih]
      rfl

/-- No other segments lead to the leaf. -/
theorem eq_of_located_nested {part : List String × Value}
    (member : part ∈ located segments (nested names)) (leaf : part.2 = .null) :
    segments = names := by
  induction segments generalizing names part with
  | nil =>
      rw [List.mem_singleton.mp member] at leaf
      cases names with
      | nil => rfl
      | cons name rest => cases leaf
  | cons segment rest ih =>
      obtain ⟨child, childOf, other, otherOf, rfl⟩ := exists_child_of_mem_located member
      obtain ⟨more, rfl, rfl⟩ := mem_children_nested childOf
      rw [ih otherOf leaf]

theorem not_blocks_nested {segment : String} : ¬Blocks segment segments (nested names) := by
  intro blocks
  induction segments generalizing names with
  | nil => cases blocks
  | cons first rest ih =>
      cases blocks with
      | here sequence _ => cases names <;> cases sequence
      | there childOf blocks =>
          obtain ⟨more, rfl, rfl⟩ := mem_children_nested childOf
          exact ih blocks

theorem findAll_nested (lookup : Lookup) (names : List String) :
    lookup.findAll (nested names) = .ok (reported lookup.segments (nested names)) := by
  rcases findAll_cases lookup (nested names) with ⟨_, success, _⟩ | ⟨_, blocks, _⟩
  · exact success
  · exact absurd blocks not_blocks_nested

/-- A lookup that finds the leaf follows the names to it. -/
theorem segments_of_findAll_nested {lookup : Lookup} {pointer : String}
    (success : lookup.findAll (nested names) = .ok [(pointer, .null)]) :
    lookup.segments = names := by
  rw [findAll_nested] at success
  have found : (pointer, Value.null) ∈ reported lookup.segments (nested names) := by
    rw [Except.ok.inj success]
    exact List.mem_cons_self
  obtain ⟨part, placed, same⟩ := List.mem_map.mp found
  exact eq_of_located_nested placed (congrArg Prod.snd same)

/-- The pointers that a path leads to lead back to their parts, in every value whose positions can
be read, if and only if the segments of the path can stand in a pointer. -/
theorem pointers_lead_back_iff (path : String) :
    ArePointable (ofPath path).segments ↔
      ∀ v found, v.isIndexable = true → (ofPath path).findAll v = .ok found →
        ∀ part ∈ found, (ofPath part.1).findAll v = .ok [part] := by
  have nonempty := segments_nonempty path
  constructor
  · intro pointable v found indexable success part member
    rcases findAll_cases (ofPath path) v with ⟨free, all, _⟩ | ⟨_, _, failed⟩
    · rw [Except.ok.inj (success.symm.trans all)] at member
      obtain ⟨place, placed, rfl⟩ := List.mem_map.mp member
      exact findAll_pointerTo pointable nonempty indexable free placed
    · cases success.symm.trans failed
  · intro leadBack
    have once := findAll_nested (ofPath path) (ofPath path).segments
    rw [reported, located_nested] at once
    have back := leadBack _ _ (isIndexable_nested _) once _ List.mem_cons_self
    exact arePointable_of_segments nonempty (segments_of_findAll_nested back)

/-- Items under a key with a point, of which some are mappings with a star as a key. -/
theorem pointers_lead_back_items :
    let v : Value := .map [(.text "a.b", .list [.map [(.text "*", .int 1)], .int 2,
      .map [(.text "*", .list [.int 3])]])]
    let found : Found := [("/a.b/0/*", .int 1), ("/a.b/2/*", .list [.int 3])]
    v.isIndexable = true ∧ (ofPath "/a.b/*/*").findAll v = .ok found ∧
      ∀ part ∈ found, (ofPath part.1).findAll v = .ok [part] := by
  intro v found
  have segments : (ofPath "/a.b/*/*").segments = ["a.b", "*", "*"] := by decide +kernel
  have pointable : ArePointable (ofPath "/a.b/*/*").segments := by decide +kernel
  have indexable : v.isIndexable = true := by decide +kernel
  have followed : followAll ["a.b", "*", "*"] [("", v)] = .ok found := rfl
  have success : (ofPath "/a.b/*/*").findAll v = .ok found := by
    unfold findAll
    rw [segments, followed]
    rfl
  refine ⟨indexable, success, ?_⟩
  exact (pointers_lead_back_iff "/a.b/*/*").mp pointable v found indexable success

/-- The pointer to what a key with a slash holds leads elsewhere. -/
theorem findAll_key_with_slash :
    let v : Value := .map [(.text "a/b", .int 1)]
    (ofPath "a/b").findAll v = .ok [("/a/b", .int 1)] ∧ (ofPath "/a/b").findAll v = .ok [] ∧
      (ofPath "/a/b").findAll v ≠ .ok [("/a/b", .int 1)] := by
  intro v
  exact ⟨rfl, rfl, nofun⟩

end Back

end Lookup

end Playbook
