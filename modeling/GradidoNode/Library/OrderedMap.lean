import Mathlib.Data.List.Basic
import Mathlib.Data.List.Perm.Basic
import Mathlib.Order.Lattice
import Mathlib.Tactic.Common

/-!
# Finite maps in key order

A map is the list of its entries in ascending key order, with the order as a
field, so iteration, lookup and insertion work on the one list. The operations
are the ones of an ordered associative container: find, insert when absent,
find-or-insert and modify, erase.
-/

namespace GradidoNode

namespace Library

/-- A finite map kept as its entries in ascending key order. -/
@[ext]
structure OrderedMap (Key : Type*) (Value : Type*) [LT Key] where
  toList : List (Key × Value)
  sorted : toList.Pairwise (fun first second => first.1 < second.1)

namespace OrderedMap

variable {Key Value : Type*} [LinearOrder Key]

def empty : OrderedMap Key Value := ⟨[], List.Pairwise.nil⟩

instance : EmptyCollection (OrderedMap Key Value) := ⟨empty⟩

instance : Inhabited (OrderedMap Key Value) := ⟨empty⟩

instance [DecidableEq Key] [DecidableEq Value] : DecidableEq (OrderedMap Key Value) :=
  fun first second => decidable_of_iff (first.toList = second.toList) OrderedMap.ext_iff.symm

@[simp] theorem toList_empty : (∅ : OrderedMap Key Value).toList = [] := rfl

def isEmpty (map : OrderedMap Key Value) : Bool := map.toList.isEmpty

@[simp] theorem isEmpty_empty : (∅ : OrderedMap Key Value).isEmpty = true := rfl

/-- Look a key up among entries. -/
def lookup (key : Key) : List (Key × Value) → Option Value
  | [] => none
  | (other, value) :: rest => if key = other then some value else lookup key rest

def find? (map : OrderedMap Key Value) (key : Key) : Option Value := lookup key map.toList

def contains (map : OrderedMap Key Value) (key : Key) : Bool := (map.find? key).isSome

/-- Put `change` of the present value (or of `none`) at a key, keeping key order. -/
def alterList (key : Key) (change : Option Value → Value) :
    List (Key × Value) → List (Key × Value)
  | [] => [(key, change none)]
  | (other, value) :: rest =>
      if key < other then (key, change none) :: (other, value) :: rest
      else if key = other then (other, change (some value)) :: rest
      else (other, value) :: alterList key change rest

/-- Altering a key above the bound keeps every key above it. -/
theorem forall_lt_alterList {bound key : Key} {change : Option Value → Value}
    {entries : List (Key × Value)} (below : bound < key)
    (all : ∀ entry ∈ entries, bound < entry.1) :
    ∀ entry ∈ alterList key change entries, bound < entry.1 := by
  induction entries with
  | nil => simpa [alterList] using below
  | cons head rest ih =>
      have headBelow := all head (List.mem_cons_self ..)
      have restBelow := ih (fun entry member => all entry (List.mem_cons_of_mem _ member))
      intro entry member
      simp only [alterList] at member
      split at member
      · rcases List.mem_cons.mp member with rfl | member
        · exact below
        · exact all entry member
      · split at member
        · rcases List.mem_cons.mp member with rfl | member
          · exact headBelow
          · exact all entry (List.mem_cons_of_mem _ member)
        · rcases List.mem_cons.mp member with rfl | member
          · exact headBelow
          · exact restBelow entry member

/-- An altered list stays sorted by key. -/
theorem alterList_sorted (key : Key) (change : Option Value → Value)
    {entries : List (Key × Value)}
    (sorted : entries.Pairwise (fun first second => first.1 < second.1)) :
    (alterList key change entries).Pairwise (fun first second => first.1 < second.1) := by
  induction entries with
  | nil => exact List.pairwise_singleton _ _
  | cons head rest ih =>
      obtain ⟨headBelow, restSorted⟩ := List.pairwise_cons.mp sorted
      simp only [alterList]
      split
      · rename_i before
        refine List.pairwise_cons.mpr ⟨?_, sorted⟩
        intro entry member
        rcases List.mem_cons.mp member with rfl | member
        · exact before
        · exact lt_trans before (headBelow entry member)
      · split
        · exact List.pairwise_cons.mpr ⟨headBelow, restSorted⟩
        · rename_i notBefore notSame
          have after : head.1 < key := lt_of_le_of_ne (not_lt.mp notBefore) (Ne.symm notSame)
          exact List.pairwise_cons.mpr
            ⟨forall_lt_alterList after headBelow, ih restSorted⟩

/-- Find the value at a key and replace it, or insert one when there is none. -/
def alter (map : OrderedMap Key Value) (key : Key) (change : Option Value → Value) :
    OrderedMap Key Value :=
  ⟨alterList key change map.toList, alterList_sorted key change map.sorted⟩

/-- Insert when the key is absent; a present value stays. -/
def insertNew (map : OrderedMap Key Value) (key : Key) (value : Value) : OrderedMap Key Value :=
  map.alter key (fun present => present.getD value)

/-- Insert, replacing a present value. -/
def set (map : OrderedMap Key Value) (key : Key) (value : Value) : OrderedMap Key Value :=
  map.alter key (fun _ => value)

def erase (map : OrderedMap Key Value) (key : Key) : OrderedMap Key Value :=
  ⟨map.toList.filter (fun entry => entry.1 ≠ key), map.sorted.sublist List.filter_sublist⟩

def keys (map : OrderedMap Key Value) : List Key := map.toList.map Prod.fst

def values (map : OrderedMap Key Value) : List Value := map.toList.map Prod.snd

def size (map : OrderedMap Key Value) : Nat := map.toList.length

@[simp] theorem find?_empty (key : Key) : (∅ : OrderedMap Key Value).find? key = none := rfl

/-- A key below all others is not found. -/
theorem lookup_eq_none_of_forall_lt {key : Key} {entries : List (Key × Value)}
    (all : ∀ entry ∈ entries, key < entry.1) : lookup key entries = none := by
  induction entries with
  | nil => rfl
  | cons head rest ih =>
      have differ : key ≠ head.1 := ne_of_lt (all head (List.mem_cons_self ..))
      simp only [lookup, differ, ↓reduceIte]
      exact ih (fun entry member => all entry (List.mem_cons_of_mem _ member))

/-- The altered key has the changed value. -/
theorem lookup_alterList_self (key : Key) (change : Option Value → Value)
    {entries : List (Key × Value)}
    (sorted : entries.Pairwise (fun first second => first.1 < second.1)) :
    lookup key (alterList key change entries) = some (change (lookup key entries)) := by
  induction entries with
  | nil => simp [alterList, lookup]
  | cons head rest ih =>
      obtain ⟨headBelow, restSorted⟩ := List.pairwise_cons.mp sorted
      simp only [alterList]
      split
      · rename_i before
        have absent : lookup key rest = none :=
          lookup_eq_none_of_forall_lt fun entry member => lt_trans before (headBelow entry member)
        simp [lookup, ne_of_lt before, absent]
      · split
        · rename_i same
          simp [lookup, same]
        · rename_i _ differ
          simp only [lookup, differ, ↓reduceIte]
          exact ih restSorted

/-- The other keys keep theirs. -/
theorem lookup_alterList_of_ne {key other : Key} (differ : other ≠ key)
    (change : Option Value → Value) (entries : List (Key × Value)) :
    lookup other (alterList key change entries) = lookup other entries := by
  induction entries with
  | nil => simp [alterList, lookup, differ]
  | cons head rest ih =>
      simp only [alterList]
      split
      · simp [lookup, differ]
      · split
        · rename_i same
          subst same
          simp [lookup, differ]
        · simp [lookup, ih]

@[simp] theorem find?_alter_self (map : OrderedMap Key Value) (key : Key)
    (change : Option Value → Value) :
    (map.alter key change).find? key = some (change (map.find? key)) :=
  lookup_alterList_self key change map.sorted

/-- Altering one key does not change what another finds. -/
theorem find?_alter_of_ne (map : OrderedMap Key Value) {key other : Key} (differ : other ≠ key)
    (change : Option Value → Value) :
    (map.alter key change).find? other = map.find? other :=
  lookup_alterList_of_ne differ change map.toList

/-- What a lookup finds stands in the list. -/
theorem mem_of_lookup {key : Key} {value : Value} {entries : List (Key × Value)}
    (found : lookup key entries = some value) : (key, value) ∈ entries := by
  induction entries with
  | nil => cases found
  | cons head rest ih =>
      simp only [lookup] at found
      split at found
      · rename_i same
        cases found
        subst same
        exact List.mem_cons_self ..
      · exact List.mem_cons_of_mem _ (ih found)

/-- In a sorted list every entry is found under its key. -/
theorem lookup_of_mem {key : Key} {value : Value} {entries : List (Key × Value)}
    (sorted : entries.Pairwise (fun first second => first.1 < second.1))
    (member : (key, value) ∈ entries) : lookup key entries = some value := by
  induction entries with
  | nil => cases member
  | cons head rest ih =>
      obtain ⟨headBelow, restSorted⟩ := List.pairwise_cons.mp sorted
      rcases List.mem_cons.mp member with same | member
      · subst same
        simp [lookup]
      · have differ : key ≠ head.1 := ne_of_gt (headBelow (key, value) member)
        simp only [lookup, differ, ↓reduceIte]
        exact ih restSorted member

/-- The entries of a map are exactly what it finds. -/
theorem mem_toList_iff {map : OrderedMap Key Value} {key : Key} {value : Value} :
    (key, value) ∈ map.toList ↔ map.find? key = some value :=
  ⟨lookup_of_mem map.sorted, mem_of_lookup⟩

/-- A key above all others is put at the end. -/
theorem alterList_of_forall_lt {key : Key} (change : Option Value → Value)
    {entries : List (Key × Value)} (all : ∀ entry ∈ entries, entry.1 < key) :
    alterList key change entries = entries ++ [(key, change none)] := by
  induction entries with
  | nil => rfl
  | cons head rest ih =>
      have above := all head (List.mem_cons_self ..)
      have restEq := ih (fun entry member => all entry (List.mem_cons_of_mem _ member))
      simp only [alterList, not_lt_of_gt above, ne_of_gt above, ↓reduceIte, restEq,
        List.cons_append]

/-- A key above all present ones is inserted at the end. -/
theorem toList_alter_of_forall_lt (map : OrderedMap Key Value) {key : Key}
    (change : Option Value → Value) (all : ∀ entry ∈ map.toList, entry.1 < key) :
    (map.alter key change).toList = map.toList ++ [(key, change none)] :=
  alterList_of_forall_lt change all

/-- An entry of a changed map is an old one or the changed one. -/
theorem mem_toList_alter {map : OrderedMap Key Value} {key : Key}
    {change : Option Value → Value} {entry : Key × Value}
    (member : entry ∈ (map.alter key change).toList) :
    entry ∈ map.toList ∨ entry = (key, change (map.find? key)) := by
  have found := Iff.mp mem_toList_iff member
  by_cases same : entry.1 = key
  · rw [same, find?_alter_self, Option.some.injEq] at found
    exact Or.inr (Prod.ext same found.symm)
  · rw [find?_alter_of_ne map same change] at found
    exact Or.inl (Iff.mpr mem_toList_iff found)

/-- Where a change appends to what an entry stands for, it appends to what the whole map
stands for, up to order. -/
theorem flatMap_alterList_perm {Target : Type*} {function : Key × Value → List Target} {key : Key}
    {change : Option Value → Value} {added : List Target}
    (absent : (function (key, change none)).Perm added)
    (present : ∀ value,
      (function (key, change (some value))).Perm (function (key, value) ++ added))
    (entries : List (Key × Value)) :
    ((alterList key change entries).flatMap function).Perm
      (entries.flatMap function ++ added) := by
  induction entries with
  | nil => simpa [alterList] using absent
  | cons head rest ih =>
      simp only [alterList]
      split
      · rw [List.flatMap_cons]
        exact (absent.append_right _).trans List.perm_append_comm
      · split
        · rename_i same
          subst same
          rw [List.flatMap_cons, List.flatMap_cons]
          refine ((present head.2).append_right _).trans ?_
          simp only [List.append_assoc]
          exact List.perm_append_comm.append_left _
        · rw [List.flatMap_cons, List.flatMap_cons, List.append_assoc]
          exact ih.append_left _

/-- A new key adds its entry, somewhere. -/
theorem toList_alter_perm {map : OrderedMap Key Value} {key : Key}
    (change : Option Value → Value) (absent : map.find? key = none) :
    (map.alter key change).toList.Perm (map.toList ++ [(key, change none)]) := by
  obtain ⟨entries, sorted⟩ := map
  change (alterList key change entries).Perm (entries ++ [(key, change none)])
  replace absent : lookup key entries = none := absent
  clear sorted
  induction entries with
  | nil => exact List.Perm.refl _
  | cons head rest ih =>
      simp only [lookup] at absent
      split at absent
      · cases absent
      · rename_i differ
        simp only [alterList, if_neg differ]
        split
        · exact (List.perm_append_singleton _ _).symm
        · exact (ih absent).cons head

/-- A map is what it finds. -/
theorem eq_of_find?_eq {map other : OrderedMap Key Value}
    (same : ∀ key, map.find? key = other.find? key) : map = other := by
  have nodup (map : OrderedMap Key Value) : map.toList.Nodup :=
    map.sorted.imp fun below same => absurd (same ▸ below) (lt_irrefl _)
  have sameEntries : map.toList.Perm other.toList := by
    refine (List.perm_ext_iff_of_nodup (nodup _) (nodup _)).mpr fun entry => ?_
    rw [mem_toList_iff, mem_toList_iff, same]
  refine OrderedMap.ext (sameEntries.eq_of_pairwise ?_ map.sorted other.sorted)
  intro first second _ _ below above
  exact absurd below (lt_asymm above)

/-- Inserting under a present key changes nothing. -/
theorem insertNew_of_present {map : OrderedMap Key Value} {key : Key} (value : Value)
    (present : map.find? key ≠ none) : map.insertNew key value = map := by
  apply eq_of_find?_eq
  intro other
  by_cases same : other = key
  · obtain ⟨kept, found⟩ := Option.ne_none_iff_exists'.mp present
    rw [same, insertNew, find?_alter_self, found]
    rfl
  · exact find?_alter_of_ne map same _

/-- Setting what is there changes nothing. -/
theorem set_of_find? {map : OrderedMap Key Value} {key : Key} {value : Value}
    (present : map.find? key = some value) : map.set key value = map := by
  apply eq_of_find?_eq
  intro other
  by_cases same : other = key
  · rw [same, set, find?_alter_self, present]
  · exact find?_alter_of_ne map same _

/-- Two changes at one key are one change. -/
theorem alter_alter (map : OrderedMap Key Value) (key : Key)
    (first second : Option Value → Value) :
    (map.alter key first).alter key second =
      map.alter key fun present => second (some (first present)) := by
  apply eq_of_find?_eq
  intro other
  by_cases same : other = key
  · rw [same, find?_alter_self, find?_alter_self, find?_alter_self]
  · rw [find?_alter_of_ne _ same, find?_alter_of_ne _ same, find?_alter_of_ne _ same]

/-- Changes at one key, one after the other. -/
theorem foldl_alter_key {Item : Type*} (change : Item → Value → Value) (start : Value) (key : Key)
    (first : Item) (items : List Item) (map : OrderedMap Key Value) :
    (first :: items).foldl
        (fun map item => map.alter key fun present => change item (present.getD start)) map =
      map.alter key fun present =>
        (first :: items).foldl (fun value item => change item value) (present.getD start) := by
  induction items generalizing first map with
  | nil => rfl
  | cons second rest ih =>
      rw [List.foldl_cons, ih second, alter_alter]
      rfl

/-- Items that come in batches, one batch for each key in ascending order, fill a map key by
key. Empty batches leave no trace. -/
theorem toList_foldl_alter {Item : Type*} (change : Item → Value → Value) (start : Value)
    {batches : List (Key × List Item)}
    (sorted : batches.Pairwise (fun first second => first.1 < second.1))
    {map : OrderedMap Key Value}
    (below : ∀ entry ∈ map.toList, ∀ batch ∈ batches, entry.1 < batch.1) :
    ((batches.flatMap fun batch => batch.2.map fun item => (batch.1, item)).foldl
      (fun map placed => map.alter placed.1 fun present => change placed.2 (present.getD start))
      map).toList =
    map.toList ++ (batches.filter fun batch => !batch.2.isEmpty).map fun batch =>
      (batch.1, batch.2.foldl (fun value item => change item value) start) := by
  induction batches generalizing map with
  | nil => exact (List.append_nil _).symm
  | cons batch rest ih =>
      obtain ⟨batchBelow, restSorted⟩ := List.pairwise_cons.mp sorted
      obtain ⟨key, items⟩ := batch
      rw [List.flatMap_cons, List.foldl_append, List.foldl_map]
      cases items with
      | nil =>
          rw [List.foldl_nil, List.filter_cons_of_neg (by simp)]
          exact ih restSorted fun entry member other inRest =>
            below entry member other (List.mem_cons_of_mem _ inRest)
      | cons first items =>
          dsimp only
          rw [foldl_alter_key, List.filter_cons_of_pos (by simp), List.map_cons]
          have filled := @toList_alter_of_forall_lt _ _ _ map key
            (fun present => (first :: items).foldl (fun value item => change item value)
              (present.getD start))
            (fun entry member => below entry member _ (List.mem_cons_self ..))
          rw [ih restSorted, filled, List.append_assoc]
          · rfl
          · intro entry member other inRest
            rw [filled] at member
            rcases List.mem_append.mp member with old | new
            · exact below entry old other (List.mem_cons_of_mem _ inRest)
            · rw [List.mem_singleton.mp new]
              exact batchBelow other inRest

/-- Inserting entries under new, different keys adds them all. -/
theorem toList_foldl_insertNew_perm {entries : List (Key × Value)} {map : OrderedMap Key Value}
    (distinct : (entries.map Prod.fst).Nodup)
    (absent : ∀ entry ∈ entries, map.find? entry.1 = none) :
    (entries.foldl (fun map entry => map.insertNew entry.1 entry.2) map).toList.Perm
      (map.toList ++ entries) := by
  induction entries generalizing map with
  | nil => rw [List.append_nil, List.foldl_nil]
  | cons head rest ih =>
      obtain ⟨headNew, restDistinct⟩ := List.nodup_cons.mp distinct
      have inserted := toList_alter_perm (fun present => present.getD head.2)
        (absent head (List.mem_cons_self ..))
      rw [List.foldl_cons]
      refine (ih restDistinct fun entry member => ?_).trans ?_
      · have differ : entry.1 ≠ head.1 := fun same =>
          headNew (same ▸ List.mem_map_of_mem member)
        rw [insertNew, find?_alter_of_ne map differ]
        exact absent entry (List.mem_cons_of_mem _ member)
      · refine (inserted.append_right rest).trans ?_
        rw [List.append_assoc]
        exact List.Perm.refl _

/-- Inserting keys that are all there changes nothing. -/
theorem foldl_insertNew_of_present {entries : List (Key × Value)} {map : OrderedMap Key Value}
    (present : ∀ entry ∈ entries, map.find? entry.1 ≠ none) :
    entries.foldl (fun map entry => map.insertNew entry.1 entry.2) map = map := by
  induction entries with
  | nil => rfl
  | cons head rest ih =>
      rw [List.foldl_cons, insertNew_of_present _ (present head (List.mem_cons_self ..))]
      exact ih fun entry member => present entry (List.mem_cons_of_mem _ member)

/-- Filtering a key out does not change what another finds. -/
theorem lookup_filter_of_ne {key other : Key} (differ : other ≠ key)
    (entries : List (Key × Value)) :
    lookup other (entries.filter fun entry => entry.1 ≠ key) = lookup other entries := by
  induction entries with
  | nil => rfl
  | cons entry rest ih =>
      by_cases erased : entry.1 = key
      · have notOther : ¬ other = entry.1 := fun same => differ (same.trans erased)
        rw [List.filter_cons, if_neg (not_not_intro erased ∘ of_decide_eq_true), ih]
        exact (if_neg notOther).symm
      · rw [List.filter_cons, if_pos (decide_eq_true erased)]
        unfold lookup
        rw [ih]

/-- Erasing a key does not change what another finds. -/
theorem find?_erase_of_ne (map : OrderedMap Key Value) {key other : Key} (differ : other ≠ key) :
    (map.erase key).find? other = map.find? other :=
  lookup_filter_of_ne differ map.toList

@[simp] theorem find?_erase_self (map : OrderedMap Key Value) (key : Key) :
    (map.erase key).find? key = none := by
  rw [Option.eq_none_iff_forall_ne_some]
  intro value found
  have member := (List.mem_filter.mp (mem_toList_iff.mpr found)).2
  exact absurd rfl (of_decide_eq_true member)

/-- Erasing a list of keys. -/
theorem find?_foldl_erase {Item : Type*} (keyOf : Item → Key) (items : List Item)
    (map : OrderedMap Key Value) (key : Key) :
    (items.foldl (fun map item => map.erase (keyOf item)) map).find? key =
      if key ∈ items.map keyOf then none else map.find? key := by
  induction items generalizing map with
  | nil => rfl
  | cons item rest ih =>
      rw [List.foldl_cons, ih, List.map_cons]
      by_cases here : key = keyOf item
      · rw [here, find?_erase_self, if_pos (List.mem_cons_self ..)]
        exact ite_self _
      · rw [find?_erase_of_ne map here]
        by_cases later : key ∈ rest.map keyOf
        · rw [if_pos later, if_pos (List.mem_cons_of_mem _ later)]
        · rw [if_neg later, if_neg (List.not_mem_cons_of_ne_of_not_mem here later)]

/-- Inserting a list of entries with new keys. -/
theorem find?_foldl_insertNew {entries : List (Key × Value)} {map : OrderedMap Key Value}
    (distinct : (entries.map Prod.fst).Nodup)
    (absent : ∀ entry ∈ entries, map.find? entry.1 = none) {key : Key} {value : Value} :
    (entries.foldl (fun map entry => map.insertNew entry.1 entry.2) map).find? key = some value ↔
      map.find? key = some value ∨ (key, value) ∈ entries := by
  rw [← mem_toList_iff, (toList_foldl_insertNew_perm distinct absent).mem_iff, List.mem_append,
    mem_toList_iff]

/-- Erasing leaves the entries of the other keys. -/
theorem toList_erase_perm {map : OrderedMap Key Value} {entry : Key × Value}
    {rest : List (Key × Value)} (split : map.toList.Perm (entry :: rest))
    (others : ∀ other ∈ rest, other.1 ≠ entry.1) : (map.erase entry.1).toList.Perm rest := by
  have kept := split.filter fun other => decide (other.1 ≠ entry.1)
  have rest_kept : rest.filter (fun other => decide (other.1 ≠ entry.1)) = rest :=
    List.filter_eq_self.mpr fun other member => decide_eq_true (others other member)
  rw [List.filter_cons, if_neg (by simp), rest_kept] at kept
  exact kept

/-- No key stands twice in a map. -/
theorem keys_nodup (map : OrderedMap Key Value) : map.keys.Nodup :=
  (List.pairwise_map.mpr map.sorted).imp ne_of_lt

/-- Changing the value of a present key adds no entry. -/
theorem size_alter_of_present {map : OrderedMap Key Value} {key : Key}
    (change : Option Value → Value) (present : map.find? key ≠ none) :
    (map.alter key change).size ≤ map.size := by
  have subset : (map.alter key change).keys ⊆ map.keys := by
    intro other member
    obtain ⟨entry, inAltered, rfl⟩ := List.mem_map.mp member
    rcases mem_toList_alter inAltered with old | rfl
    · exact List.mem_map_of_mem old
    · obtain ⟨value, found⟩ := Option.ne_none_iff_exists'.mp present
      exact List.mem_map.mpr ⟨(key, value), Iff.mpr mem_toList_iff found, rfl⟩
  have bounded := (keys_nodup (map.alter key change)).length_le_of_subset subset
  rwa [keys, keys, List.length_map, List.length_map] at bounded

/-- An altered map is not empty. -/
theorem alter_ne_empty (map : OrderedMap Key Value) (key : Key)
    (change : Option Value → Value) : map.alter key change ≠ ∅ := by
  intro same
  have found := map.find?_alter_self key change
  rw [same] at found
  cases found

/-- In a sorted list, what comes first comes first of what is filtered too. -/
theorem filter_or_of_before {first second : Key × Value → Bool} {entries : List (Key × Value)}
    (sorted : entries.Pairwise fun left right => left.1 < right.1)
    (before : ∀ left right, first left = true → second right = true → left.1 < right.1) :
    entries.filter (fun entry => first entry || second entry) =
      entries.filter first ++ entries.filter second := by
  induction entries with
  | nil => rfl
  | cons head rest ih =>
      obtain ⟨below, restSorted⟩ := List.pairwise_cons.mp sorted
      have restSplit := ih restSorted
      cases isFirst : first head with
      | true =>
          have notSecond : second head = false := by
            by_contra isSecond
            exact lt_irrefl _ (before head head isFirst (Bool.not_eq_false _ ▸ isSecond))
          rw [List.filter_cons_of_pos (by simp [isFirst]), List.filter_cons_of_pos isFirst,
            List.filter_cons_of_neg (by simp [notSecond]), restSplit, List.cons_append]
      | false =>
          cases isSecond : second head with
          | false =>
              rw [List.filter_cons_of_neg (by simp [isFirst, isSecond]),
                List.filter_cons_of_neg (by simp [isFirst]),
                List.filter_cons_of_neg (by simp [isSecond]), restSplit]
          | true =>
              have noFirst : rest.filter first = [] := by
                rw [List.filter_eq_nil_iff]
                intro entry member isFirstLater
                exact lt_asymm (below entry member) (before entry head isFirstLater isSecond)
              rw [List.filter_cons_of_pos (by simp [isSecond]),
                List.filter_cons_of_neg (by simp [isFirst]), List.filter_cons_of_pos isSecond,
                restSplit, noFirst, List.nil_append, List.nil_append]

/-- The entries of one key are what its lookup finds. -/
theorem filter_key_eq_lookup {key : Key} {entries : List (Key × Value)}
    (sorted : entries.Pairwise fun left right => left.1 < right.1) :
    entries.filter (fun entry => entry.1 = key) =
      ((lookup key entries).map fun value => (key, value)).toList := by
  induction entries with
  | nil => rfl
  | cons head rest ih =>
      obtain ⟨below, restSorted⟩ := List.pairwise_cons.mp sorted
      by_cases same : head.1 = key
      · have none : rest.filter (fun entry => decide (entry.1 = key)) = [] := by
          rw [List.filter_eq_nil_iff]
          intro entry member isKey
          have sameKey := of_decide_eq_true isKey
          exact lt_irrefl _ (same ▸ sameKey ▸ below entry member)
        rw [List.filter_cons_of_pos (by simp [same]), none]
        simp only [lookup, if_pos same.symm]
        subst same
        rfl
      · rw [List.filter_cons_of_neg (by simp [same]), ih restSorted]
        simp only [lookup, if_neg (Ne.symm same)]

/-- Looking up ascending keys one after the other gives the entries with these keys. -/
theorem flatMap_lookup {Item : Type*} {keys : List Key} {entries : List (Key × List Item)}
    (ascending : keys.Pairwise (· < ·))
    (sorted : entries.Pairwise fun left right => left.1 < right.1) :
    keys.flatMap (fun key => (lookup key entries).getD []) =
      (entries.filter fun entry => entry.1 ∈ keys).flatMap Prod.snd := by
  induction keys with
  | nil => simp
  | cons key rest ih =>
      obtain ⟨below, restAscending⟩ := List.pairwise_cons.mp ascending
      have split : (entries.filter fun entry => decide (entry.1 ∈ key :: rest)) =
          entries.filter (fun entry => decide (entry.1 = key)) ++
            entries.filter (fun entry => decide (entry.1 ∈ rest)) := by
        rw [← filter_or_of_before sorted]
        · simp only [List.mem_cons, Bool.decide_or]
        · intro left right isKey isLater
          rw [of_decide_eq_true isKey]
          exact below right.1 (of_decide_eq_true isLater)
      rw [List.flatMap_cons, ih restAscending, split, List.flatMap_append,
        filter_key_eq_lookup sorted]
      cases lookup key entries with
      | none => rfl
      | some value => simp

/-- A list with no key behind this one ends with it, if it has it, and altering it changes
nothing before it. -/
theorem exists_beforeList {key : Key} {entries : List (Key × Value)}
    (sorted : entries.Pairwise (fun first second => first.1 < second.1))
    (latest : ∀ entry ∈ entries, entry.1 ≤ key) :
    ∃ before, entries = before ++ ((lookup key entries).map fun value => (key, value)).toList ∧
      ∀ change, alterList key change entries = before ++ [(key, change (lookup key entries))] := by
  induction entries with
  | nil => exact ⟨[], rfl, fun _ => rfl⟩
  | cons entry rest ih =>
      obtain ⟨other, value⟩ := entry
      obtain ⟨above, restSorted⟩ := List.pairwise_cons.mp sorted
      have upTo := latest _ (List.mem_cons_self ..)
      dsimp only at upTo above
      rcases lt_or_eq_of_le upTo with below | rfl
      · obtain ⟨before, same, altered⟩ := ih restSorted
          fun entry member => latest entry (List.mem_cons_of_mem _ member)
        have differ : key ≠ other := ne_of_gt below
        refine ⟨(other, value) :: before, ?_, fun change => ?_⟩
        · rw [lookup, if_neg differ, List.cons_append, ← same]
        · rw [alterList, if_neg (not_lt_of_gt below), if_neg differ, altered, lookup, if_neg differ,
            List.cons_append]
      · have none : rest = [] := by
          refine List.eq_nil_iff_forall_not_mem.mpr fun entry member => ?_
          exact absurd (above entry member)
            (not_lt_of_ge (latest entry (List.mem_cons_of_mem _ member)))
        subst none
        refine ⟨[], ?_, fun change => ?_⟩
        · rw [lookup, if_pos rfl]
          rfl
        · rw [alterList, if_neg (lt_irrefl _), if_pos rfl, lookup, if_pos rfl]
          rfl

/-- A map with no key behind this one ends with it, if it has it, and altering it changes nothing
before it. -/
theorem exists_before {map : OrderedMap Key Value} {key : Key}
    (latest : ∀ entry ∈ map.toList, entry.1 ≤ key) :
    ∃ before, map.toList = before ++ ((map.find? key).map fun value => (key, value)).toList ∧
      ∀ change, (map.alter key change).toList = before ++ [(key, change (map.find? key))] :=
  exists_beforeList map.sorted latest

/-- The values of a map, key by key. -/
theorem values_eq_map_keys (map : OrderedMap Key Value) (other : Value) :
    map.values = map.keys.map fun key => (map.find? key).getD other := by
  unfold values keys
  rw [List.map_map]
  refine List.map_congr_left fun entry member => ?_
  rw [Function.comp_apply, Iff.mp mem_toList_iff member, Option.getD_some]

end OrderedMap

end Library

end GradidoNode
