import GradidoNode.Cache.Dictionary
import GradidoNode.Library.FixedWidth
import Mathlib.Data.List.Nodup

/-!
# When a dictionary is a stable bijection

As long as every string that enters is new and shares its octet with no stored one, the
strings of a dictionary are numbered in the order in which they came, in LevelDB as in
memory, and a restart finds the same numbers again.
-/

namespace GradidoNode

open Library Files

namespace Cache

/-- The strings of a dictionary with their indices, in the order in which they came. -/
def numbered (strings : List (List UInt8)) : List (List UInt8 × UInt32) :=
  (strings.zipIdx 1).map fun entry => (entry.1, UInt32.ofNat entry.2)

/-- A string's number is its position, counted from 1. -/
theorem mem_numbered {strings : List (List UInt8)} {string : List UInt8} {index : UInt32} :
    (string, index) ∈ numbered strings ↔
      ∃ position, strings[position]? = some string ∧ index = UInt32.ofNat (position + 1) := by
  simp only [numbered, List.mem_map, Prod.exists, Prod.mk.injEq, List.mem_zipIdx_iff_le_and_getElem?_sub]
  constructor
  · rintro ⟨_, number, ⟨positive, found⟩, rfl, rfl⟩
    exact ⟨number - 1, found, by rw [Nat.sub_add_cancel positive]⟩
  · rintro ⟨position, found, rfl⟩
    exact ⟨string, position + 1, ⟨Nat.le_add_left 1 position, found⟩, rfl, rfl⟩

/-- A further string has the next number. -/
theorem numbered_append (strings : List (List UInt8)) (string : List UInt8) :
    numbered (strings ++ [string]) =
      numbered strings ++ [(string, UInt32.ofNat (strings.length + 1))] := by
  rw [numbered, List.zipIdx_append, List.map_append, Nat.add_comm]
  rfl

/-- There are as many numbers as strings. -/
theorem length_numbered (strings : List (List UInt8)) :
    (numbered strings).length = strings.length := by
  rw [numbered, List.length_map, List.length_zipIdx]

/-- Below 2^32 strings, an index belongs to one string. -/
theorem numbered_index_injective {strings : List (List UInt8)} (small : strings.length < 2 ^ 32)
    {first second : List UInt8} {index : UInt32} (isFirst : (first, index) ∈ numbered strings)
    (isSecond : (second, index) ∈ numbered strings) : first = second := by
  obtain ⟨position, found, rfl⟩ := mem_numbered.mp isFirst
  obtain ⟨other, foundOther, same⟩ := mem_numbered.mp isSecond
  have inside := (List.getElem?_eq_some_iff.mp found).1
  have insideOther := (List.getElem?_eq_some_iff.mp foundOther).1
  have positions := congrArg UInt32.toNat same
  rw [UInt32.toNat_ofNat', UInt32.toNat_ofNat', Nat.mod_eq_of_lt (by omega),
    Nat.mod_eq_of_lt (by omega)] at positions
  have samePosition : position = other := by omega
  rw [samePosition, foundOther] at found
  exact (Option.some.inj found).symm

/-- Strings with different octets have one index each. -/
theorem numbered_string_injective {Octet : Type} {signatureOctet : List UInt8 → Octet}
    {strings : List (List UInt8)} (distinct : (strings.map signatureOctet).Nodup)
    {first second : List UInt8} {index other : UInt32}
    (isFirst : (first, index) ∈ numbered strings) (isSecond : (second, other) ∈ numbered strings)
    (sameOctet : signatureOctet first = signatureOctet second) :
    first = second ∧ index = other := by
  obtain ⟨position, found, rfl⟩ := mem_numbered.mp isFirst
  obtain ⟨otherPosition, foundOther, rfl⟩ := mem_numbered.mp isSecond
  have inside : position < (strings.map signatureOctet).length := by
    rw [List.length_map]
    exact (List.getElem?_eq_some_iff.mp found).1
  have samePosition : position = otherPosition := by
    apply (List.getElem?_inj inside distinct).mp
    rw [List.getElem?_map, List.getElem?_map, found, foundOther, Option.map_some, Option.map_some,
      sameOctet]
  rw [samePosition, foundOther] at found
  exact ⟨(Option.some.inj found).symm, by rw [samePosition]⟩

variable {Octet : Type} [LinearOrder Octet] {signatureOctet : List UInt8 → Octet}

/-- The dictionary holds exactly these strings, numbered from 1. -/
structure Dictionary.Holds (signatureOctet : List UInt8 → Octet) (dictionary : Dictionary Octet)
    (strings : List (List UInt8)) : Prop where
  lastIndex : dictionary.lastIndex = UInt32.ofNat strings.length
  small : strings.length < 2 ^ 32
  distinct : (strings.map signatureOctet).Nodup
  file : dictionary.dictionaryFile.toList.Perm
    ((numbered strings).map fun entry => (Dictionary.to_string entry.2, entry.1))
  lookup : dictionary.valueKeyReverseLookup.toList.Perm
    ((numbered strings).map fun entry => (signatureOctet entry.1, entry.2))

namespace Dictionary

/-- A fresh dictionary holds no string. -/
theorem holds_new (folderName : String) :
    ((new folderName ∅).init signatureOctet).Holds signatureOctet [] where
  lastIndex := rfl
  small := by decide
  distinct := List.nodup_nil
  file := List.Perm.refl _
  lookup := List.Perm.refl _

variable {dictionary : Dictionary Octet} {strings : List (List UInt8)}

/-- The file holds the strings under their numbers. -/
theorem Holds.find?_file (holds : dictionary.Holds signatureOctet strings) {string : List UInt8}
    {index : UInt32} :
    dictionary.dictionaryFile.find? (to_string index) = some string ↔
      (string, index) ∈ numbered strings := by
  rw [← OrderedMap.mem_toList_iff, holds.file.mem_iff, List.mem_map]
  constructor
  · rintro ⟨⟨other, otherIndex⟩, member, same⟩
    cases to_string_injective (congrArg Prod.fst same)
    cases congrArg Prod.snd same
    exact member
  · intro member
    exact ⟨(string, index), member, rfl⟩

/-- The reverse lookup holds the octets of the strings. -/
theorem Holds.find?_lookup (holds : dictionary.Holds signatureOctet strings) {octet : Octet}
    {index : UInt32} :
    dictionary.valueKeyReverseLookup.find? octet = some index ↔
      ∃ string, (string, index) ∈ numbered strings ∧ signatureOctet string = octet := by
  rw [← OrderedMap.mem_toList_iff, holds.lookup.mem_iff, List.mem_map]
  constructor
  · rintro ⟨⟨string, otherIndex⟩, member, same⟩
    cases congrArg Prod.snd same
    exact ⟨string, member, congrArg Prod.fst same⟩
  · rintro ⟨string, member, rfl⟩
    exact ⟨(string, index), member, rfl⟩

/-- The string is returned for its number. -/
theorem Holds.getStringForIndex (holds : dictionary.Holds signatureOctet strings)
    {string : List UInt8} {index : UInt32} (member : (string, index) ∈ numbered strings) :
    dictionary.getStringForIndex index = .ok string := by
  rw [Dictionary.getStringForIndex, holds.find?_file.mpr member]

/-- An index that is found is the one of the string. -/
theorem Holds.findIndexForString (holds : dictionary.Holds signatureOctet strings)
    {string : List UInt8} {index : UInt32}
    (found : dictionary.findIndexForString signatureOctet string = .ok index)
    (isIndex : index ≠ 0) : (string, index) ∈ numbered strings := by
  unfold Dictionary.findIndexForString at found
  split at found
  · cases found
  · split at found
    · cases found
      exact absurd rfl isIndex
    · split at found
      · rename_i stored
        cases found
        exact holds.find?_file.mp stored
      · cases found
        exact absurd rfl isIndex

/-- A new string with an octet of its own gets the next index. -/
theorem Holds.setKeyValue (holds : dictionary.Holds signatureOctet strings) {string : List UInt8}
    (fresh : ∀ other ∈ strings, signatureOctet other ≠ signatureOctet string)
    (fits : strings.length + 1 < 2 ^ 32) :
    ∃ next, dictionary.setKeyValue signatureOctet string (dictionary.lastIndex + 1) true =
        (.ok (), next) ∧
      next.Holds signatureOctet (strings ++ [string]) ∧
      (string, dictionary.lastIndex + 1) ∈ numbered (strings ++ [string]) := by
  have index : dictionary.lastIndex + 1 = UInt32.ofNat (strings.length + 1) := by
    rw [holds.lastIndex, UInt32.ofNat_add]
    rfl
  have isNumbered : (string, dictionary.lastIndex + 1) ∈ numbered (strings ++ [string]) := by
    rw [numbered_append, index]
    exact List.mem_append_right _ (List.mem_singleton_self _)
  have noKey : dictionary.dictionaryFile.find? (to_string (dictionary.lastIndex + 1)) = none := by
    by_contra present
    obtain ⟨other, found⟩ := Option.ne_none_iff_exists'.mp present
    obtain ⟨position, isOther, same⟩ := mem_numbered.mp (holds.find?_file.mp found)
    have inside := (List.getElem?_eq_some_iff.mp isOther).1
    have positions := congrArg UInt32.toNat (index.symm.trans same)
    rw [UInt32.toNat_ofNat', UInt32.toNat_ofNat', Nat.mod_eq_of_lt fits,
      Nat.mod_eq_of_lt (by omega)] at positions
    omega
  have noOctet : dictionary.valueKeyReverseLookup.find? (signatureOctet string) = none := by
    by_contra present
    obtain ⟨found, isFound⟩ := Option.ne_none_iff_exists'.mp present
    obtain ⟨other, isOther, same⟩ := holds.find?_lookup.mp isFound
    obtain ⟨position, isString, _⟩ := mem_numbered.mp isOther
    exact fresh other (List.mem_of_getElem? isString) same
  refine ⟨_, rfl, ⟨?_, ?_, ?_, ?_, ?_⟩, isNumbered⟩
  · rw [List.length_append]
    exact index
  · rw [List.length_append]
    exact fits
  · rw [List.map_append, List.map_cons, List.map_nil]
    refine List.nodup_append.mpr ⟨holds.distinct, List.pairwise_singleton _ _, ?_⟩
    intro octet isOld other isNew
    obtain ⟨stored, isStored, rfl⟩ := List.mem_map.mp isOld
    rw [List.mem_singleton.mp isNew]
    exact fresh stored isStored
  · rw [numbered_append, List.map_append, ← index]
    exact (OrderedMap.toList_alter_perm _ noKey).trans (holds.file.append_right _)
  · rw [numbered_append, List.map_append, ← index]
    exact (OrderedMap.toList_alter_perm _ noOctet).trans (holds.lookup.append_right _)

/-- The entries `init` inserts into the map in memory. -/
def reverseEntries (signatureOctet : List UInt8 → Octet) (dictionaryFile : LevelDB) :
    List (Octet × UInt32) :=
  dictionaryFile.toList.map fun entry => (signatureOctet entry.2, strtoul entry.1)

/-- The reverse lookup read from the file is that of the strings. -/
theorem Holds.reverseEntries_perm (holds : dictionary.Holds signatureOctet strings) :
    (reverseEntries signatureOctet dictionary.dictionaryFile).Perm
      ((numbered strings).map fun entry => (signatureOctet entry.1, entry.2)) := by
  refine (holds.file.map _).trans ?_
  rw [List.map_map]
  refine List.Perm.of_eq (List.map_congr_left fun entry _ => ?_)
  rw [Function.comp_apply, strtoul_to_string]

/-- Whether the map in memory is still there or has to be filled again, `init` finds the
same numbers. -/
theorem Holds.init (holds : dictionary.Holds signatureOctet strings)
    {lookup : OrderedMap Octet UInt32}
    (either : lookup = ∅ ∨ lookup = dictionary.valueKeyReverseLookup) :
    (({ dictionary with valueKeyReverseLookup := lookup } : Dictionary Octet).init
      signatureOctet).Holds signatureOctet strings := by
  have entries := holds.reverseEntries_perm
  have folded : dictionary.dictionaryFile.toList.foldl (fun lookup entry =>
      lookup.insertNew (signatureOctet entry.2) (strtoul entry.1)) lookup =
      (reverseEntries signatureOctet dictionary.dictionaryFile).foldl
        (fun map entry => map.insertNew entry.1 entry.2) lookup := by
    rw [reverseEntries, List.foldl_map]
  have refilled : (dictionary.dictionaryFile.toList.foldl (fun lookup entry =>
      lookup.insertNew (signatureOctet entry.2) (strtoul entry.1)) lookup).toList.Perm
      ((numbered strings).map fun entry => (signatureOctet entry.1, entry.2)) := by
    rw [folded]
    rcases either with rfl | rfl
    · have octets : ((numbered strings).map fun entry =>
          (signatureOctet entry.1, entry.2)).map Prod.fst = strings.map signatureOctet := by
        rw [List.map_map, numbered, List.map_map]
        change (strings.zipIdx 1).map (signatureOctet ∘ Prod.fst) = _
        rw [← List.map_map, List.zipIdx_map_fst]
      have distinct : ((reverseEntries signatureOctet
          dictionary.dictionaryFile).map Prod.fst).Nodup := by
        rw [(entries.map Prod.fst).nodup_iff, octets]
        exact holds.distinct
      exact (OrderedMap.toList_foldl_insertNew_perm distinct fun _ _ => rfl).trans entries
    · rw [OrderedMap.foldl_insertNew_of_present]
      · exact holds.lookup
      · intro entry member
        have inMap := holds.lookup.mem_iff.mpr (entries.mem_iff.mp member)
        rw [OrderedMap.mem_toList_iff.mp inMap]
        exact Option.some_ne_none _
  refine ⟨?_, holds.small, holds.distinct, holds.file, refilled⟩
  have size := refilled.length_eq
  rw [List.length_map, length_numbered] at size
  exact congrArg UInt32.ofNat size

variable {string : List UInt8}

end Dictionary

namespace DictionarySystem

/-- What enters is new, shares its octet with no stored string, is accepted by LevelDB, and
finds an index left. -/
def Insertable (signatureOctet : List UInt8 → Octet) (system : DictionarySystem Octet)
    (string : List UInt8) (putOk : Bool) : Prop :=
  putOk = true ∧ system.dictionary.lastIndex.toNat + 1 < 2 ^ 32 ∧
    ∀ other ∈ system.dictionary.dictionaryFile.values,
      signatureOctet other ≠ signatureOctet string

/-- Every insertion is one of an insertable string; `addStringIndex` may also throw. -/
def InsertsFresh (signatureOctet : List UInt8 → Octet) (system : DictionarySystem Octet) :
    DictionaryEvent → Prop
  | .insert position putOk => ∀ call, system.calls[position]? = some call →
      match call with
      | .getOrAddIndexForString string => Insertable signatureOctet system string putOk
      | .addStringIndex string index => system.dictionary.lastIndex + 1 = index →
          Insertable signatureOctet system string putOk
  | _ => True

/-- The dictionary numbers strings, and nothing else was given out. -/
def Consistent (signatureOctet : List UInt8 → Octet) (system : DictionarySystem Octet) : Prop :=
  ∃ strings, system.dictionary.Holds signatureOctet strings ∧
    ∀ given ∈ system.returned ++ system.added, given ∈ numbered strings

variable {system next : DictionarySystem Octet}

/-- A consistent run gives every string one number for ever. -/
theorem Consistent.stableBijection (consistent : Consistent signatureOctet system) :
    StableBijection system := by
  obtain ⟨strings, holds, given⟩ := consistent
  have returned {string : List UInt8} {index : UInt32} (member : (string, index) ∈ system.returned) :
      (string, index) ∈ numbered strings := given _ (List.mem_append_left _ member)
  refine ⟨?_, ?_, ?_⟩
  · intro string first second isFirst isSecond
    exact (numbered_string_injective holds.distinct (returned isFirst) (returned isSecond) rfl).2
  · intro string other index isString isOther
    exact numbered_index_injective holds.small (given _ isString) (given _ isOther)
  · intro string index member
    exact holds.getStringForIndex (returned member)

/-- The start of a call keeps the run consistent. -/
theorem Consistent.begin (consistent : Consistent signatureOctet system) (call : DictionaryCall) :
    Consistent signatureOctet (system.begin signatureOctet call) := by
  cases call with
  | addStringIndex string index =>
      simp only [DictionarySystem.begin]
      split <;> exact consistent
  | getOrAddIndexForString string =>
      obtain ⟨strings, holds, given⟩ := consistent
      simp only [DictionarySystem.begin]
      split
      · exact ⟨strings, holds, given⟩
      · rename_i index found
        split
        · exact ⟨strings, holds, given⟩
        · rename_i isIndex
          refine ⟨strings, holds, fun pair member => ?_⟩
          rw [List.mem_append, List.mem_append, List.mem_singleton] at member
          rcases member with (before | rfl) | before
          · exact given pair (List.mem_append_left _ before)
          · exact holds.findIndexForString found isIndex
          · exact given pair (List.mem_append_right _ before)

/-- What an insertion leaves: one more string, with the next index. -/
theorem Insertable.inserted {string : List UInt8} {putOk : Bool} {strings : List (List UInt8)}
    (insertable : Insertable signatureOctet system string putOk)
    (holds : system.dictionary.Holds signatureOctet strings) :
    ∃ dictionary, system.dictionary.setKeyValue signatureOctet string
        (system.dictionary.lastIndex + 1) putOk = (.ok (), dictionary) ∧
      dictionary.Holds signatureOctet (strings ++ [string]) ∧
      ∀ given, given ∈ numbered strings ∨ given = (string, system.dictionary.lastIndex + 1) →
        given ∈ numbered (strings ++ [string]) := by
  obtain ⟨rfl, fits, fresh⟩ := insertable
  rw [holds.lastIndex, UInt32.toNat_ofNat', Nat.mod_eq_of_lt holds.small] at fits
  have freshString : ∀ other ∈ strings, signatureOctet other ≠ signatureOctet string := by
    intro other member
    obtain ⟨position, found⟩ := List.mem_iff_getElem?.mp member
    have isNumbered := mem_numbered.mpr ⟨position, found, rfl⟩
    have inFile := OrderedMap.mem_toList_iff.mpr (holds.find?_file.mpr isNumbered)
    exact fresh other (List.mem_map_of_mem inFile)
  obtain ⟨dictionary, stored, holdsNext, isNew⟩ := holds.setKeyValue freshString fits
  refine ⟨dictionary, stored, holdsNext, ?_⟩
  rintro given (old | rfl)
  · rw [numbered_append]
    exact List.mem_append_left _ old
  · exact isNew

/-- The end of a call that inserts a fresh octet keeps it consistent. -/
theorem Consistent.finish (consistent : Consistent signatureOctet system) {putOk : Bool}
    {call : DictionaryCall}
    (fresh : match call with
      | .getOrAddIndexForString string => Insertable signatureOctet system string putOk
      | .addStringIndex string index => system.dictionary.lastIndex + 1 = index →
          Insertable signatureOctet system string putOk) :
    Consistent signatureOctet (system.finish signatureOctet putOk call) := by
  obtain ⟨strings, holds, given⟩ := consistent
  cases call with
  | getOrAddIndexForString string =>
      obtain ⟨dictionary, stored, holdsNext, isNumbered⟩ := Insertable.inserted fresh holds
      simp only [DictionarySystem.finish, Dictionary.addIndexForString, stored]
      refine ⟨strings ++ [string], holdsNext, fun pair member => isNumbered pair ?_⟩
      rw [List.mem_append, List.mem_append, List.mem_singleton] at member
      rcases member with (before | rfl) | before
      · exact Or.inl (given pair (List.mem_append_left _ before))
      · exact Or.inr rfl
      · exact Or.inl (given pair (List.mem_append_right _ before))
  | addStringIndex string index =>
      by_cases isNext : system.dictionary.lastIndex + 1 = index
      · obtain ⟨dictionary, stored, holdsNext, isNumbered⟩ :=
          Insertable.inserted (fresh isNext) holds
        subst isNext
        simp only [DictionarySystem.finish, Dictionary.addIndex, ne_eq, not_true_eq_false,
          ↓reduceIte, stored]
        refine ⟨strings ++ [string], holdsNext, fun pair member => isNumbered pair ?_⟩
        rw [List.mem_append, List.mem_append, List.mem_singleton] at member
        rcases member with before | before | rfl
        · exact Or.inl (given pair (List.mem_append_left _ before))
        · exact Or.inl (given pair (List.mem_append_right _ before))
        · exact Or.inr rfl
      · simp only [DictionarySystem.finish, Dictionary.addIndex, ne_eq, isNext,
          not_false_eq_true, ↓reduceIte]
        exact ⟨strings, holds, given⟩

/-- Every step that inserts a fresh octet keeps it consistent. -/
theorem Consistent.step (consistent : Consistent signatureOctet system) {event : DictionaryEvent}
    (fresh : InsertsFresh signatureOctet system event)
    (taken : system.step signatureOctet event = some next) : Consistent signatureOctet next := by
  cases event with
  | call call =>
      cases taken
      exact consistent.begin call
  | insert position putOk =>
      simp only [DictionarySystem.step] at taken
      split at taken
      · cases taken
      · rename_i call found
        cases taken
        have going : Consistent signatureOctet
            { system with calls := system.calls.eraseIdx position } := consistent
        exact going.finish (fresh call found)
  | reopen =>
      cases taken
      obtain ⟨strings, holds, given⟩ := consistent
      exact ⟨strings, holds.init (Or.inr rfl), given⟩
  | restart =>
      cases taken
      obtain ⟨strings, holds, given⟩ := consistent
      exact ⟨strings, holds.init (Or.inl rfl), given⟩

/-- In every run in which only insertable strings enter, the dictionary is a stable
bijection at every moment. -/
theorem stableBijection_of_run {folderName : String} {events : List DictionaryEvent}
    {reached : DictionarySystem Octet}
    (meets : StepsMeet (step signatureOctet) (InsertsFresh signatureOctet) events
      (start signatureOctet folderName))
    (run : runEvents (step signatureOctet) events (start signatureOctet folderName) =
      some reached) : StableBijection reached := by
  have started : Consistent signatureOctet (start signatureOctet folderName) :=
    ⟨[], Dictionary.holds_new folderName, nofun⟩
  have stable (system : DictionarySystem Octet) (event : DictionaryEvent)
      (next : DictionarySystem Octet) (consistent : Consistent signatureOctet system)
      (fresh : InsertsFresh signatureOctet system event)
      (taken : step signatureOctet system event = some next) :
      Consistent signatureOctet next := consistent.step fresh taken
  exact (invariant_of_stepsMeet stable started meets run).stableBijection

section Example

/-- A key of eight bytes. -/
def firstBytes (string : List UInt8) : List UInt8 := string.take 8

/-- Seventeen bytes that differ in the middle one alone. -/
def exampleString (middle : UInt8) : List UInt8 :=
  List.replicate 8 1 ++ [middle] ++ List.replicate 8 2

/-- Two strings that differ in their first bytes, both asked for again after a restart. -/
def askedForAgain : List DictionaryEvent :=
  [.call (.getOrAddIndexForString (exampleString 0)), .insert 0 true,
    .call (.getOrAddIndexForString (List.replicate 17 3)), .insert 0 true, .restart,
    .call (.getOrAddIndexForString (exampleString 0)),
    .call (.getOrAddIndexForString (List.replicate 17 3))]

/-- They keep their two indices. -/
theorem stableBijection_askedForAgain :
    ∃ reached, runEvents (step firstBytes) askedForAgain (start firstBytes "pubkeysCache") =
        some reached ∧ StableBijection reached := by
  refine ⟨_, rfl, @stableBijection_of_run _ _ firstBytes "pubkeysCache" askedForAgain _ ?_ rfl⟩
  refine StepsMeet.cons trivial rfl (StepsMeet.cons ?_ rfl (StepsMeet.cons trivial rfl
    (StepsMeet.cons ?_ rfl (StepsMeet.cons trivial rfl (StepsMeet.cons trivial rfl
      (StepsMeet.cons trivial rfl trivial))))))
  · intro call found
    cases found
    exact ⟨rfl, by decide, by decide⟩
  · intro call found
    cases found
    exact ⟨rfl, by decide, by decide⟩

/-- Two strings with the same octet: the second gets a new index whenever it is asked for. -/
theorem not_stableBijection_sameOctet :
    ∃ reached, runEvents (step firstBytes)
        [.call (.getOrAddIndexForString (exampleString 0)), .insert 0 true,
          .call (.getOrAddIndexForString (exampleString 1)), .insert 0 true,
          .call (.getOrAddIndexForString (exampleString 1)), .insert 0 true]
        (start firstBytes "pubkeysCache") = some reached ∧ ¬ StableBijection reached := by
  refine ⟨_, rfl, fun bijection => ?_⟩
  have same := bijection.stable (exampleString 1) 2 3 (by decide) (by decide)
  exact absurd same (by decide)

end Example

end DictionarySystem

end Cache

end GradidoNode
