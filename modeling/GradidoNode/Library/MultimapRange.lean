import GradidoNode.Library.OrderedMultimap

/-!
# Ranges of keys in a multimap

The entries between the lower bound of one key and the upper bound of another. Walking from one
to the other is undefined where the bounds are in the wrong order.
-/

namespace GradidoNode

namespace Library

section Closed

variable {Item : Type*} {items : List Item} {keep : Item → Bool}

/-- Where what is kept comes first, the first items that are kept are all. -/
theorem takeWhile_eq_filter
    (closed : items.Pairwise fun first second => keep second = true → keep first = true) :
    items.takeWhile keep = items.filter keep ∧
      items.dropWhile keep = items.filter fun item => !keep item := by
  induction items with
  | nil => exact ⟨rfl, rfl⟩
  | cons first rest ih =>
      obtain ⟨before, closedRest⟩ := List.pairwise_cons.mp closed
      obtain ⟨taken, dropped⟩ := ih closedRest
      by_cases kept : keep first = true
      · simp only [List.takeWhile_cons, List.dropWhile_cons, List.filter_cons, kept, taken, dropped,
          Bool.not_true, Bool.false_eq_true, ↓reduceIte, and_self]
      · have noneKept : ∀ item ∈ rest, ¬ keep item = true :=
          fun item member isKept => kept (before item member isKept)
        have allLeft : rest.filter (fun item => !keep item) = rest := by
          apply List.filter_eq_self.mpr
          intro item member
          simp [noneKept item member]
        rw [List.takeWhile_cons_of_neg kept, List.dropWhile_cons_of_neg kept,
          List.filter_cons_of_neg kept, List.filter_eq_nil_iff.mpr noneKept]
        refine ⟨rfl, ?_⟩
        rw [List.filter_cons_of_pos (by simp [kept]), allLeft]

/-- Behind the longest prefix kept stands the rest. -/
theorem drop_length_takeWhile (keep : Item → Bool) (items : List Item) :
    items.drop (items.takeWhile keep).length = items.dropWhile keep := by
  have dropped := @List.drop_left _ (items.takeWhile keep) (items.dropWhile keep)
  rwa [List.takeWhile_append_dropWhile] at dropped

/-- The longest prefix kept, taken by its length. -/
theorem take_length_takeWhile (keep : Item → Bool) (items : List Item) :
    items.take (items.takeWhile keep).length = items.takeWhile keep := by
  have taken := @List.take_left _ (items.takeWhile keep) (items.dropWhile keep)
  rwa [List.takeWhile_append_dropWhile] at taken

end Closed

namespace OrderedMultimap

variable {Key Value : Type*} [LinearOrder Key]

/-- How many entries come before the first whose key is not less. -/
def lowerBound (map : OrderedMultimap Key Value) (key : Key) : Nat :=
  (map.toList.takeWhile fun entry => entry.1 < key).length

/-- How many entries come before the first whose key is greater. -/
def upperBound (map : OrderedMultimap Key Value) (key : Key) : Nat :=
  (map.toList.takeWhile fun entry => entry.1 ≤ key).length

/-- The values from the lower bound of a key to the upper bound of another. -/
def range (map : OrderedMultimap Key Value) (first last : Key) : Option (List Value) :=
  if map.lowerBound first ≤ map.upperBound last then
    some (((map.toList.drop (map.lowerBound first)).take
      (map.upperBound last - map.lowerBound first)).map Prod.snd)
  else none

variable (map : OrderedMultimap Key Value)

/-- In a sorted list the keys below one stand in front. -/
theorem takeWhile_lt (key : Key) :
    map.toList.takeWhile (fun entry => entry.1 < key) =
        map.toList.filter (fun entry => entry.1 < key) ∧
      map.toList.dropWhile (fun entry => entry.1 < key) =
        map.toList.filter (fun entry => key ≤ entry.1) := by
  obtain ⟨taken, dropped⟩ := @takeWhile_eq_filter _ map.toList (fun entry => entry.1 < key)
    (map.sorted.imp fun ordered below => by
      rw [decide_eq_true_iff] at below ⊢
      exact lt_of_le_of_lt ordered below)
  refine ⟨taken, dropped.trans (List.filter_congr fun entry _ => ?_)⟩
  rw [← decide_not, decide_eq_decide, not_lt]

/-- And so do those up to it. -/
theorem takeWhile_le {entries : List (Key × Value)}
    (sorted : entries.Pairwise fun first second => first.1 ≤ second.1) (key : Key) :
    entries.takeWhile (fun entry => entry.1 ≤ key) =
      entries.filter (fun entry => entry.1 ≤ key) :=
  (takeWhile_eq_filter (sorted.imp fun ordered below => by
    rw [decide_eq_true_iff] at below ⊢
    exact le_trans ordered below)).1

/-- The lower bound counts the keys below. -/
theorem length_lowerBound (key : Key) :
    map.lowerBound key = (map.toList.filter fun entry => entry.1 < key).length :=
  congrArg List.length (map.takeWhile_lt key).1

/-- The upper bound counts the keys up to it. -/
theorem length_upperBound (key : Key) :
    map.upperBound key = (map.toList.filter fun entry => entry.1 ≤ key).length :=
  congrArg List.length (takeWhile_le map.sorted key)

/-- From the lower bound on come the keys that are not less. -/
theorem drop_lowerBound (key : Key) :
    map.toList.drop (map.lowerBound key) = map.toList.filter fun entry => key ≤ entry.1 :=
  (drop_length_takeWhile _ _).trans (map.takeWhile_lt key).2

/-- The keys up to the upper bound are those below a lesser key and those in between. -/
theorem upperBound_of_le {first last : Key} (ordered : first ≤ last) :
    map.upperBound last = map.lowerBound first +
      (map.toList.filter fun entry => first ≤ entry.1 ∧ entry.1 ≤ last).length := by
  rw [length_upperBound, length_lowerBound, ← List.countP_eq_length_filter,
    ← List.countP_eq_length_filter, ← List.countP_eq_length_filter]
  induction map.toList with
  | nil => rfl
  | cons entry rest ih =>
      simp only [List.countP_cons, ih, decide_eq_true_eq]
      by_cases below : entry.1 < first
      · simp [below, not_le.mpr below, le_trans (le_of_lt below) ordered]
        omega
      · by_cases upTo : entry.1 ≤ last
        · simp [below, not_lt.mp below, upTo]
          omega
        · simp [below, upTo]

/-- In the right order, the values of the keys in between. -/
theorem range_of_le {first last : Key} (ordered : first ≤ last) :
    map.range first last = some ((map.toList.filter fun entry =>
      first ≤ entry.1 ∧ entry.1 ≤ last).map Prod.snd) := by
  have upper := map.upperBound_of_le ordered
  have between : (map.toList.filter fun entry => first ≤ entry.1).filter (fun entry =>
      entry.1 ≤ last) = map.toList.filter fun entry => first ≤ entry.1 ∧ entry.1 ≤ last := by
    rw [List.filter_filter]
    apply List.filter_congr
    intro entry _
    rw [Bool.and_comm, ← Bool.decide_and]
  have sorted : (map.toList.filter fun entry => first ≤ entry.1).Pairwise
      fun first second => first.1 ≤ second.1 := map.sorted.sublist List.filter_sublist
  unfold range
  rw [if_pos (upper ▸ Nat.le_add_right _ _), drop_lowerBound, upper, Nat.add_sub_cancel_left,
    ← between, ← takeWhile_le sorted, take_length_takeWhile]

/-- In the wrong order, the range is empty where no key lies between, and otherwise the walk is
undefined. -/
theorem range_of_lt {first last : Key} (wrong : last < first) :
    map.range first last =
      if ∃ entry ∈ map.toList, last < entry.1 ∧ entry.1 < first then none else some [] := by
  have lower : map.lowerBound first = map.upperBound last +
      (map.toList.filter fun entry => last < entry.1 ∧ entry.1 < first).length := by
    rw [length_upperBound, length_lowerBound, ← List.countP_eq_length_filter,
      ← List.countP_eq_length_filter, ← List.countP_eq_length_filter]
    induction map.toList with
    | nil => rfl
    | cons entry rest ih =>
        simp only [List.countP_cons, ih, decide_eq_true_eq]
        by_cases upTo : entry.1 ≤ last
        · simp [upTo, not_lt.mpr upTo, lt_of_le_of_lt upTo wrong]
          omega
        · by_cases below : entry.1 < first
          · simp [below, not_le.mp upTo, upTo]
            omega
          · simp [below, upTo]
  unfold range
  by_cases between : ∃ entry ∈ map.toList, last < entry.1 ∧ entry.1 < first
  · rw [if_pos between]
    obtain ⟨entry, member, isBetween⟩ := between
    have inside : entry ∈ map.toList.filter fun entry => last < entry.1 ∧ entry.1 < first :=
      List.mem_filter.mpr ⟨member, decide_eq_true isBetween⟩
    have positive := List.length_pos_of_mem inside
    apply if_neg
    rw [lower]
    omega
  · rw [if_neg between]
    have empty : (map.toList.filter fun entry => last < entry.1 ∧ entry.1 < first) = [] := by
      apply List.filter_eq_nil_iff.mpr
      intro entry member isBetween
      exact between ⟨entry, member, of_decide_eq_true isBetween⟩
    rw [empty, List.length_nil, Nat.add_zero] at lower
    rw [if_pos (le_of_eq lower), lower, Nat.sub_self, List.take_zero, List.map_nil]

/-! ## The range of one key -/

variable {map}

/-- An entry is inserted behind those of its key. -/
theorem insertList_filter (entry : Key × Value) {entries : List (Key × Value)}
    (sorted : entries.Pairwise fun first second => first.1 ≤ second.1) (key : Key) :
    (insertList entry entries).filter (fun other => other.1 = key) =
      entries.filter (fun other => other.1 = key) ++ [entry].filter fun other => other.1 = key := by
  induction entries with
  | nil => rfl
  | cons first rest ih =>
      obtain ⟨before, sortedRest⟩ := List.pairwise_cons.mp sorted
      have inserted := ih sortedRest
      unfold insertList at inserted ⊢
      rw [List.orderedInsert_cons]
      split
      · rename_i below
        by_cases isKey : entry.1 = key
        · have noneLeft : (first :: rest).filter (fun other => other.1 = key) = [] := by
            apply List.filter_eq_nil_iff.mpr
            intro other member
            rw [decide_eq_true_iff]
            rcases List.mem_cons.mp member with rfl | member
            · exact isKey ▸ ne_of_gt below
            · exact isKey ▸ ne_of_gt (lt_of_lt_of_le below (before other member))
          rw [List.filter_cons, noneLeft]
          simp [isKey]
        · simp [List.filter_cons, isKey]
      · by_cases isKey : first.1 = key
        · simp [isKey, inserted]
        · simp [isKey, inserted]

/-- A value is inserted behind those of its key, and other keys keep theirs. -/
theorem equalRange_insert (value : Value) (key other : Key) :
    (map.insert key value).equalRange other =
      map.equalRange other ++ if key = other then [value] else [] := by
  have inserted := insertList_filter (key, value) map.sorted other
  unfold equalRange insert
  dsimp only
  rw [inserted, List.map_append]
  by_cases same : key = other
  · simp [same]
  · simp [same]

/-- The first wanted value of the key is erased, and other keys keep theirs. -/
theorem equalRange_eraseFirst (wanted : Value → Bool) (key other : Key) :
    (map.eraseFirst key wanted).equalRange other =
      if key = other then (map.equalRange other).eraseP wanted else map.equalRange other := by
  unfold equalRange eraseFirst
  dsimp only
  by_cases same : key = other
  · subst same
    rw [if_pos rfl, List.eraseP_map, List.eraseP_filter]
    congr 3
    funext entry
    exact Bool.and_comm ..
  · rw [if_neg same]
    congr 1
    have kept : ∀ entry : Key × Value, decide (entry.1 = other) = true →
        ¬ (decide (entry.1 = key) && wanted entry.2) = true := by
      intro entry isOther isErased
      rw [decide_eq_true_iff] at isOther
      exact same ((of_decide_eq_true (Bool.and_eq_true_iff.mp isErased).1).symm.trans isOther)
    induction map.toList with
    | nil => rfl
    | cons entry rest ih =>
        by_cases isErased : (decide (entry.1 = key) && wanted entry.2) = true
        · rw [List.eraseP_cons, isErased, cond_true, List.filter_cons,
            if_neg fun isOther => kept entry isOther isErased]
        · rw [List.eraseP_cons, Bool.eq_false_iff.mpr isErased, cond_false, List.filter_cons,
            List.filter_cons, ih]

end OrderedMultimap

end Library

end GradidoNode
