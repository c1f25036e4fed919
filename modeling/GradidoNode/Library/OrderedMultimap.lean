import Mathlib.Data.List.Sort
import Mathlib.Order.Lattice
import Mathlib.Tactic.Common

/-!
# Multimaps in key order

A multimap is the list of its entries in key order, entries of one key in the order in
which they came. The operations are insertion, the range of a key, and erasing one entry
of a range.
-/

namespace GradidoNode

namespace Library

/-- Entries in ascending key order. A key may have several. -/
@[ext]
structure OrderedMultimap (Key : Type*) (Value : Type*) [LE Key] where
  toList : List (Key × Value)
  sorted : toList.Pairwise (fun first second => first.1 ≤ second.1)

namespace OrderedMultimap

variable {Key Value : Type*} [LinearOrder Key]

def empty : OrderedMultimap Key Value := ⟨[], List.Pairwise.nil⟩

instance : EmptyCollection (OrderedMultimap Key Value) := ⟨empty⟩

instance [DecidableEq Value] : DecidableEq (OrderedMultimap Key Value) :=
  fun first second => decidable_of_iff (first.toList = second.toList) OrderedMultimap.ext_iff.symm

@[simp] theorem toList_empty : (∅ : OrderedMultimap Key Value).toList = [] := rfl

/-- Before the first entry of a greater key, so after the present entries of the key. -/
def insertList (entry : Key × Value) : List (Key × Value) → List (Key × Value) :=
  List.orderedInsert (fun first second => first.1 < second.1) entry

/-- An inserted entry is one more entry. -/
theorem insertList_perm (entry : Key × Value) (entries : List (Key × Value)) :
    (insertList entry entries).Perm (entry :: entries) :=
  List.perm_orderedInsert _ entry entries

/-- A sorted list stays sorted. -/
theorem insertList_sorted (entry : Key × Value) {entries : List (Key × Value)}
    (sorted : entries.Pairwise (fun first second => first.1 ≤ second.1)) :
    (insertList entry entries).Pairwise (fun first second => first.1 ≤ second.1) := by
  induction entries with
  | nil => exact List.pairwise_singleton _ _
  | cons head rest ih =>
      obtain ⟨headBelow, restSorted⟩ := List.pairwise_cons.mp sorted
      unfold insertList
      rw [List.orderedInsert_cons]
      split
      · rename_i before
        refine List.pairwise_cons.mpr ⟨fun other member => ?_, sorted⟩
        rcases List.mem_cons.mp member with rfl | member
        · exact le_of_lt before
        · exact le_trans (le_of_lt before) (headBelow other member)
      · rename_i notBefore
        refine List.pairwise_cons.mpr ⟨fun other member => ?_, ih restSorted⟩
        rcases List.mem_cons.mp ((insertList_perm entry rest).mem_iff.mp member) with rfl | member
        · exact not_lt.mp notBefore
        · exact headBelow other member

def insert (map : OrderedMultimap Key Value) (key : Key) (value : Value) :
    OrderedMultimap Key Value :=
  ⟨insertList (key, value) map.toList, insertList_sorted (key, value) map.sorted⟩

/-- The values of a key, in the order in which they came. -/
def equalRange (map : OrderedMultimap Key Value) (key : Key) : List Value :=
  (map.toList.filter fun entry => entry.1 = key).map Prod.snd

/-- Erase the first entry of a key whose value is wanted. -/
def eraseFirst (map : OrderedMultimap Key Value) (key : Key) (wanted : Value → Bool) :
    OrderedMultimap Key Value :=
  ⟨map.toList.eraseP fun entry => decide (entry.1 = key) && wanted entry.2,
    map.sorted.sublist List.eraseP_sublist⟩

/-- Erase all entries whose value is unwanted. -/
def eraseAll (map : OrderedMultimap Key Value) (unwanted : Value → Bool) :
    OrderedMultimap Key Value :=
  ⟨map.toList.filter fun entry => !unwanted entry.2, map.sorted.sublist List.filter_sublist⟩

/-- Erase the entry of the lowest key that came first. -/
def eraseBegin (map : OrderedMultimap Key Value) : OrderedMultimap Key Value :=
  ⟨map.toList.tail, map.sorted.sublist (List.tail_sublist _)⟩

def values (map : OrderedMultimap Key Value) : List Value := map.toList.map Prod.snd

/-- An inserted entry is one more of the multimap. -/
theorem toList_insert_perm (map : OrderedMultimap Key Value) (key : Key) (value : Value) :
    (map.insert key value).toList.Perm ((key, value) :: map.toList) :=
  insertList_perm (key, value) map.toList

/-- An inserted value is one more value. -/
theorem values_insert_perm (map : OrderedMultimap Key Value) (key : Key) (value : Value) :
    (map.insert key value).values.Perm (value :: map.values) :=
  (map.toList_insert_perm key value).map Prod.snd

/-- The values after an insert. -/
theorem mem_values_insert {map : OrderedMultimap Key Value} {key : Key} {value other : Value} :
    other ∈ (map.insert key value).values ↔ other = value ∨ other ∈ map.values := by
  rw [(map.values_insert_perm key value).mem_iff, List.mem_cons]

/-- The values left are those that are wanted. -/
theorem mem_values_eraseAll {map : OrderedMultimap Key Value} {unwanted : Value → Bool}
    {value : Value} :
    value ∈ (map.eraseAll unwanted).values ↔ value ∈ map.values ∧ unwanted value = false := by
  simp only [values, eraseAll, List.mem_map, List.mem_filter]
  constructor
  · rintro ⟨entry, ⟨member, kept⟩, rfl⟩
    exact ⟨⟨entry, member, rfl⟩, Bool.not_eq_true' _ ▸ kept⟩
  · rintro ⟨⟨entry, member, rfl⟩, kept⟩
    exact ⟨entry, ⟨member, by rw [kept]; rfl⟩, rfl⟩

/-- Erasing the first entry adds none. -/
theorem mem_values_of_eraseBegin {map : OrderedMultimap Key Value} {value : Value}
    (member : value ∈ map.eraseBegin.values) : value ∈ map.values := by
  obtain ⟨entry, inTail, rfl⟩ := List.mem_map.mp member
  exact List.mem_map_of_mem (List.mem_of_mem_tail inTail)

/-- The values of a key are those of its entries. -/
theorem mem_equalRange_iff {map : OrderedMultimap Key Value} {key : Key} {value : Value} :
    value ∈ map.equalRange key ↔ (key, value) ∈ map.toList := by
  unfold equalRange
  rw [List.mem_map]
  constructor
  · rintro ⟨⟨_, _⟩, member, rfl⟩
    obtain ⟨inMap, same⟩ := List.mem_filter.mp member
    cases of_decide_eq_true same
    exact inMap
  · intro inMap
    exact ⟨(key, value), List.mem_filter.mpr ⟨inMap, decide_eq_true rfl⟩, rfl⟩

/-- An inserted value is one more of its key. -/
theorem equalRange_insert_perm (map : OrderedMultimap Key Value) (key : Key) (value : Value) :
    ((map.insert key value).equalRange key).Perm (value :: map.equalRange key) := by
  have inserted := (map.toList_insert_perm key value).filter fun entry => entry.1 = key
  rw [List.filter_cons, if_pos (decide_eq_true rfl)] at inserted
  exact inserted.map Prod.snd

/-- Erasing takes one wanted entry of the key away, if there is one. -/
theorem toList_eraseFirst_perm {map : OrderedMultimap Key Value} {key : Key}
    {wanted : Value → Bool} {value : Value} (member : value ∈ map.equalRange key)
    (isWanted : wanted value = true) :
    ∃ erased, wanted erased = true ∧
      map.toList.Perm ((key, erased) :: (map.eraseFirst key wanted).toList) := by
  let isErased (entry : Key × Value) : Bool := decide (entry.1 = key) && wanted entry.2
  have holds : isErased (key, value) = true := by
    change (decide (key = key) && wanted value) = true
    rw [isWanted, decide_eq_true rfl]
    rfl
  obtain ⟨⟨otherKey, erased⟩, before, after, _, found, split, rest⟩ :=
    @List.exists_of_eraseP _ isErased _ _ (mem_equalRange_iff.mp member) holds
  obtain ⟨sameKey, erasedWanted⟩ := Bool.and_eq_true_iff.mp found
  have sameKey : otherKey = key := of_decide_eq_true sameKey
  refine ⟨erased, erasedWanted, ?_⟩
  change map.toList.Perm ((key, erased) :: map.toList.eraseP isErased)
  rw [rest, split, sameKey]
  exact List.perm_middle

end OrderedMultimap

end Library

end GradidoNode
