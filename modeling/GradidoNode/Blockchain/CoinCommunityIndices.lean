import GradidoNode.Blockchain.CommunityIdIndex
import Mathlib.Data.List.Nodup
import Mathlib.Data.String.Basic

/-!
# Coin community indices after the start

Which of the block indices that are loaded at the start still mean the coin communities of their
transactions.
-/

namespace GradidoNode

open Library Cache Files

/-! ## The entries of a rebuilt index -/

namespace Cache

section Rebuilt

variable {getCommunityIdIndex : String → Except Exception UInt32}

/-- The number that a transaction is indexed with. -/
def coinCommunityIndexOf (getCommunityIdIndex : String → Except Exception UInt32)
    (transaction : NodeTransactionEntry) : Except Exception UInt32 :=
  if transaction.coinCommunityId.isEmpty then .ok 0
  else getCommunityIdIndex transaction.coinCommunityId

/-- Pushing an entry adds it to the entries of the index. -/
theorem allEntries_of_pushEntry {indices : TransactionIndices} {entry : BlockIndexEntry}
    {index next : BlockIndex}
    (pushed : BlockIndex.addIndicesForTransaction.pushEntry indices entry index = (.ok (), next)) :
    next.allEntries.Perm (index.allEntries ++ [entry]) := by
  unfold BlockIndex.addIndicesForTransaction.pushEntry at pushed
  dsimp only at pushed
  split at pushed
  · rename_i result recorded reached
    cases pushed
    rw [BlockIndex.allEntries_addFileCursorForTransaction reached]
    exact @BlockIndex.allEntries_alterMonth_perm index indices.year indices.month
      (· ++ [entry]) [entry] fun _ => rfl
  · cases pushed

/-- Indexing a transaction adds its entry, whatever month it is put into. -/
theorem allEntries_of_addIndicesForTransaction {indices : TransactionIndices}
    {index next : BlockIndex}
    (added : BlockIndex.addIndicesForTransaction indices index = (.ok (), next)) :
    next.allEntries.Perm (index.allEntries ++ [BlockIndex.entryOf indices]) := by
  have created := @BlockIndex.allEntries_alterMonth_perm
    (BlockIndex.widen { index with dirty := true } indices.transactionNr) indices.year
    indices.month id [] fun entries => (List.append_nil entries).symm
  rw [List.append_nil] at created
  unfold BlockIndex.addIndicesForTransaction at added
  dsimp only at added
  split at added
  · cases added
  · split at added
    · split at added
      · cases added
      · exact (allEntries_of_pushEntry added).trans (created.append_right _)
    · exact (allEntries_of_pushEntry added).trans (created.append_right _)

/-- A transaction that is indexed gets one entry. -/
theorem allEntries_of_addIndicesForTransactionEntry {transaction : NodeTransactionEntry}
    {index next : BlockIndex}
    (added : BlockIndex.addIndicesForTransactionEntry getCommunityIdIndex transaction index =
      (.ok (), next)) :
    ∃ coinCommunityIndex,
      coinCommunityIndexOf getCommunityIdIndex transaction = .ok coinCommunityIndex ∧
      next.allEntries.Perm (index.allEntries ++
        [BlockIndex.entryOf (BlockIndex.indicesOf transaction coinCommunityIndex)]) := by
  unfold BlockIndex.addIndicesForTransactionEntry at added
  dsimp only at added
  split at added
  · cases added
  · rename_i result recorded reached
    have kept : recorded.allEntries = index.allEntries := by
      split at reached
      · have widened := BlockIndex.allEntries_addFileCursorForTransaction reached
        exact widened
      · cases reached
        rfl
    split at added
    · cases added
    · rename_i coinCommunityIndex looked
      refine ⟨coinCommunityIndex, looked, ?_⟩
      rw [← kept]
      exact allEntries_of_addIndicesForTransaction added

/-- An entry that means a transaction. -/
def IsEntryOf (getCommunityIdIndex : String → Except Exception UInt32)
    (transaction : NodeTransactionEntry) (entry : BlockIndexEntry) : Prop :=
  entry.transactionNr = transaction.transactionNr ∧
    coinCommunityIndexOf getCommunityIdIndex transaction = .ok entry.coinCommunityIdIndex

/-- The loop that indexes rebuilt entries goes through them in ascending order, and indexes each
with the number of its coin community. -/
structure RebuiltFrom (getCommunityIdIndex : String → Except Exception UInt32)
    (transactions : List NodeTransactionEntry) (prevId : UInt64) (index next : BlockIndex) :
    Prop where
  above : ∀ transaction ∈ transactions, prevId < transaction.transactionNr
  ascending : transactions.Pairwise fun first second => first.transactionNr < second.transactionNr
  entries : ∀ entry ∈ next.allEntries, entry ∈ index.allEntries ∨
    ∃ transaction ∈ transactions, IsEntryOf getCommunityIdIndex transaction entry
  indexed : ∀ transaction ∈ transactions, ∃ entry ∈ next.allEntries,
    IsEntryOf getCommunityIdIndex transaction entry
  kept : ∀ entry ∈ index.allEntries, entry ∈ next.allEntries

/-- An index filled from a block's transactions has one entry for each, with the numbers the
dictionary gave. -/
theorem rebuiltFrom_of_indexEntries {transactions : List NodeTransactionEntry} {prevId : UInt64}
    {index next : BlockIndex}
    (success : indexEntries getCommunityIdIndex transactions prevId index = (.ok (), next)) :
    RebuiltFrom getCommunityIdIndex transactions prevId index next := by
  induction transactions generalizing prevId index with
  | nil =>
      cases success
      exact ⟨nofun, .nil, fun entry member => .inl member, nofun, fun entry member => member⟩
  | cons head rest ih =>
      unfold indexEntries at success
      split at success
      · cases success
      · rename_i notBelow
        have above : prevId < head.transactionNr := not_le.mp notBelow
        split at success
        · rename_i middle added
          obtain ⟨coinCommunityIndex, looked, entries⟩ :=
            allEntries_of_addIndicesForTransactionEntry added
          have later := ih success
          have isEntry : IsEntryOf getCommunityIdIndex head
              (BlockIndex.entryOf (BlockIndex.indicesOf head coinCommunityIndex)) := ⟨rfl, looked⟩
          have inMiddle : BlockIndex.entryOf (BlockIndex.indicesOf head coinCommunityIndex) ∈
              middle.allEntries :=
            entries.mem_iff.mpr (List.mem_append_right _ (List.mem_singleton_self _))
          refine ⟨?_, List.pairwise_cons.mpr ⟨later.above, later.ascending⟩, ?_, ?_, ?_⟩
          · intro transaction member
            rcases List.mem_cons.mp member with rfl | inRest
            · exact above
            · exact lt_trans above (later.above transaction inRest)
          · intro entry member
            rcases later.entries entry member with inMiddle | ⟨transaction, inRest, isOther⟩
            · rcases List.mem_append.mp (entries.mem_iff.mp inMiddle) with old | new
              · exact .inl old
              · rw [List.mem_singleton.mp new]
                exact .inr ⟨head, List.mem_cons_self .., isEntry⟩
            · exact .inr ⟨transaction, List.mem_cons_of_mem _ inRest, isOther⟩
          · intro transaction member
            rcases List.mem_cons.mp member with rfl | inRest
            · exact ⟨_, later.kept _ inMiddle, isEntry⟩
            · exact later.indexed transaction inRest
          · intro entry member
            exact later.kept entry (entries.mem_iff.mpr (List.mem_append_left _ member))
        · cases success

end Rebuilt

end Cache

/-! ## The dictionary while communities are added -/

namespace Blockchain.CommunityWorld

variable {Octet : Type} [LinearOrder Octet] {library : DictionaryLibrary Octet}

/-- Two community ids are not written with the same bytes. -/
theorem idBytes_injective : Function.Injective idBytes := by
  intro first second same
  apply String.toByteArray_inj.mp
  apply ByteArray.ext
  exact Array.toList_inj.mp same

/-- A string that is found has its number. -/
theorem getStringForIndex_of_found {dictionary : Dictionary Octet} {communityId : String}
    {number : UInt32}
    (found : getCommunityIdIndex library dictionary communityId = .ok number) :
    number ≠ 0 ∧
      dictionary.dictionaryFile.find? (Dictionary.to_string number) = some (idBytes communityId) := by
  unfold getCommunityIdIndex Dictionary.getIndexForString at found
  split at found
  · cases found
  · rename_i index outcome
    split at found
    · cases found
    · rename_i positive
      cases found
      refine ⟨positive, ?_⟩
      unfold Dictionary.findIndexForString at outcome
      split at outcome
      · cases outcome
      · split at outcome
        · cases outcome
          exact absurd rfl positive
        · split at outcome
          · rename_i stored
            cases outcome
            exact stored
          · cases outcome
            exact absurd rfl positive

/-- A string is returned for a number exactly if the dictionary file holds it there. -/
theorem getStringForIndex_ok_iff {dictionary : Dictionary Octet} {number : UInt32}
    {string : List UInt8} :
    dictionary.getStringForIndex number = .ok string ↔
      dictionary.dictionaryFile.find? (Dictionary.to_string number) = some string := by
  unfold Dictionary.getStringForIndex
  cases dictionary.dictionaryFile.find? (Dictionary.to_string number) with
  | none => simp
  | some value => simp

/-- A community that is unknown gets the next number. -/
theorem withCommunity_of_unknown {dictionary : Dictionary Octet} {communityId : String}
    (isUnknown : isUnknown library dictionary communityId = true) :
    withCommunity library dictionary communityId = { dictionary with
      lastIndex := dictionary.lastIndex + 1
      dictionaryFile := dictionary.dictionaryFile.set
        (Dictionary.to_string (dictionary.lastIndex + 1)) (idBytes communityId)
      valueKeyReverseLookup := dictionary.valueKeyReverseLookup.insertNew
        (library.signatureOctet (idBytes communityId)) (dictionary.lastIndex + 1) } := by
  unfold CommunityWorld.isUnknown at isUnknown
  unfold withCommunity Dictionary.getOrAddIndexForString
  cases outcome : Dictionary.findIndexForString library.signatureOctet dictionary
      (idBytes communityId) with
  | error exception =>
      rw [outcome] at isUnknown
      cases isUnknown
  | ok index =>
      rw [outcome] at isUnknown
      dsimp only
      rw [if_pos (of_decide_eq_true isUnknown)]
      rfl

/-- One that is known, or that is no string to number, changes nothing. -/
theorem withCommunity_of_known {dictionary : Dictionary Octet} {communityId : String}
    (isKnown : isUnknown library dictionary communityId = false) :
    withCommunity library dictionary communityId = dictionary := by
  unfold CommunityWorld.isUnknown at isKnown
  unfold withCommunity Dictionary.getOrAddIndexForString
  cases outcome : Dictionary.findIndexForString library.signatureOctet dictionary
      (idBytes communityId) with
  | error exception => rfl
  | ok index =>
      rw [outcome] at isKnown
      dsimp only
      rw [if_neg (of_decide_eq_false isKnown)]

/-- A number stands for the one it was given to last, or for whom it stood before. -/
theorem find?_foldl_withCommunity (communitiesIds : List String) (dictionary : Dictionary Octet)
    (number : UInt32) :
    (communitiesIds.foldl (withCommunity library) dictionary).dictionaryFile.find?
        (Dictionary.to_string number) =
      ((numberGiven number (newcomers library communitiesIds dictionary)
        dictionary.lastIndex).map idBytes).or
          (dictionary.dictionaryFile.find? (Dictionary.to_string number)) := by
  induction communitiesIds generalizing dictionary with
  | nil => rfl
  | cons communityId rest ih =>
      rw [List.foldl_cons, ih, newcomers]
      cases unknown : isUnknown library dictionary communityId with
      | false =>
          rw [withCommunity_of_known unknown]
          rfl
      | true =>
          rw [withCommunity_of_unknown unknown, if_pos rfl, List.singleton_append, numberGiven]
          dsimp only
          by_cases isNext : dictionary.lastIndex + 1 = number
          · rw [if_pos isNext, isNext, OrderedMap.set, OrderedMap.find?_alter_self]
            cases numberGiven number (newcomers library rest _) number with
            | none => rfl
            | some other => rfl
          · have differ : Dictionary.to_string number ≠
                Dictionary.to_string (dictionary.lastIndex + 1) :=
              fun same => isNext (Dictionary.to_string_injective same).symm
            rw [if_neg isNext, Option.or_none, OrderedMap.set,
              OrderedMap.find?_alter_of_ne _ differ]

/-- A dictionary that opens starts with what is on the disk; one that does not starts empty. -/
theorem find?_startDictionary (startup : Startup) (disk : Disk) (key : List Char) :
    (startDictionary library startup disk).dictionaryFile.find? key =
      if startup.opened then disk.communityIds.find? key else none := by
  unfold startDictionary
  cases startup.opened with
  | true => rfl
  | false => rfl

/-- A number keeps its meaning where it stands for the coin community in the end. -/
theorem numberKept_iff {startup : Startup} {disk : Disk} {number : UInt32}
    {coinCommunityId : String} :
    (startup.communitiesIds.foldl (withCommunity library)
        (startDictionary library startup disk)).dictionaryFile.find?
          (Dictionary.to_string number) = some (idBytes coinCommunityId) ↔
      NumberKept library startup disk number coinCommunityId := by
  rw [find?_foldl_withCommunity, find?_startDictionary]
  unfold NumberKept
  dsimp only
  cases numberGiven number
      (newcomers library startup.communitiesIds (startDictionary library startup disk))
      (startDictionary library startup disk).lastIndex with
  | some communityId =>
      rw [Option.map_some, Option.some_or, Option.some_inj]
      exact idBytes_injective.eq_iff
  | none =>
      rw [Option.map_none, Option.none_or]
      cases startup.opened with
      | true => simp
      | false => simp

/-! ## Loading the communities -/

/-- The block index that a look at a block loads. -/
def Opens (library : DictionaryLibrary Octet) (world : CommunityWorld Octet) (communityId : String)
    (blockNr : UInt32) (index : BlockIndex) : Prop :=
  openBlock library world.communityIdIndex ((world.stores communityId).indexFiles.find? blockNr)
    (((world.stores communityId).blockFiles.find? blockNr).getD []) = .ok index

/-- What is left after some blocks of a community were looked at: only the block indices of
these are new in memory. -/
structure Visited (library : DictionaryLibrary Octet) (before : CommunityWorld Octet)
    (communityId : String) (visited : List UInt32) (world : CommunityWorld Octet) : Prop where
  dictionary : world.communityIdIndex = before.communityIdIndex
  others : ∀ other, other ≠ communityId → world.stores other = before.stores other
  blockFiles : (world.stores communityId).blockFiles = (before.stores communityId).blockFiles
  indexFiles : (world.stores communityId).indexFiles = (before.stores communityId).indexFiles
  cached : ∀ blockNr index, (world.stores communityId).cachedBlocks.find? blockNr = some index ↔
    blockNr ∈ visited ∧ Opens library before communityId blockNr index
  opens : ∀ blockNr ∈ visited, ∃ index, Opens library before communityId blockNr index

/-- Visiting blocks of a community does not change what another block opens to. -/
theorem Visited.opens_iff {before world : CommunityWorld Octet} {communityId : String}
    {visited : List UInt32} (held : Visited library before communityId visited world)
    {blockNr : UInt32} {index : BlockIndex} :
    Opens library world communityId blockNr index ↔
      Opens library before communityId blockNr index := by
  unfold Opens
  rw [held.dictionary, held.blockFiles, held.indexFiles]

/-- Reading a block adds it to the blocks visited. -/
theorem Visited.getBlock {before world next : CommunityWorld Octet} {communityId : String}
    {visited : List UInt32} (held : Visited library before communityId visited world)
    {blockNr : UInt32} (success : getBlock library communityId blockNr world = (.ok (), next)) :
    Visited library before communityId (visited ++ [blockNr]) next := by
  unfold CommunityWorld.getBlock at success
  dsimp only at success
  split at success
  · rename_i present
    cases success
    obtain ⟨index, found⟩ := Option.isSome_iff_exists.mp present
    have already := ((held.cached blockNr index).mp found).1
    have sameBlocks : ∀ other, other ∈ visited ++ [blockNr] ↔ other ∈ visited := by
      intro other
      rw [List.mem_append, List.mem_singleton]
      exact ⟨fun member => member.elim id fun same => same ▸ already, .inl⟩
    refine ⟨held.dictionary, held.others, held.blockFiles, held.indexFiles, fun other index => ?_,
      fun other member => held.opens other ((sameBlocks other).mp member)⟩
    rw [held.cached, sameBlocks]
  · split at success
    · cases success
    · rename_i absent index opened
      cases success
      have opens : Opens library before communityId blockNr index := held.opens_iff.mp opened
      refine ⟨held.dictionary, fun other differ => ?_, ?_, ?_, fun other found => ?_,
        fun other member => ?_⟩
      · rw [setStore_of_ne _ differ]
        exact held.others other differ
      · rw [setStore_self]
        exact held.blockFiles
      · rw [setStore_self]
        exact held.indexFiles
      · rw [setStore_self]
        dsimp only
        rw [List.mem_append, List.mem_singleton]
        by_cases same : other = blockNr
        · rw [same, OrderedMap.set, OrderedMap.find?_alter_self]
          constructor
          · rintro ⟨⟩
            exact ⟨.inr rfl, opens⟩
          · rintro ⟨_, alsoOpens⟩
            exact congrArg some (Except.ok.inj (opens.symm.trans alsoOpens))
        · rw [OrderedMap.set, OrderedMap.find?_alter_of_ne _ same, held.cached]
          simp [same]
      · rcases List.mem_append.mp member with earlier | last
        · exact held.opens other earlier
        · exact ⟨index, List.mem_singleton.mp last ▸ opens⟩

/-- Reading blocks in a row adds them all. -/
theorem Visited.forEach {before world next : CommunityWorld Octet} {communityId : String}
    {visited blockNrs : List UInt32} (held : Visited library before communityId visited world)
    (success : Fallible.forEach (CommunityWorld.getBlock library communityId) blockNrs world =
      (.ok (), next)) : Visited library before communityId (visited ++ blockNrs) next := by
  induction blockNrs generalizing visited world with
  | nil =>
      cases success
      rw [List.append_nil]
      exact held
  | cons blockNr rest ih =>
      rw [Fallible.forEach_cons] at success
      obtain ⟨_, middle, looked, later⟩ := Fallible.andThen_ok_iff.mp success
      have reached := ih (held.getBlock looked) later
      rw [List.append_assoc] at reached
      exact reached

/-- What the communities that were added have left: the numbers of the dictionary, and in memory
the block indices that were looked at. -/
structure Loaded (library : DictionaryLibrary Octet) (startup : Startup) (disk : Disk)
    (added : List String) (world : CommunityWorld Octet) : Prop where
  dictionary : world.communityIdIndex =
    added.foldl (withCommunity library) (startDictionary library startup disk)
  blockFiles : ∀ communityId, (world.stores communityId).blockFiles = disk.blockFiles communityId
  indexFiles : ∀ communityId, communityId ∉ added →
    (world.stores communityId).indexFiles = disk.indexFiles communityId
  cached : ∀ communityId blockNr index,
    (world.stores communityId).cachedBlocks.find? blockNr = some index ↔
      communityId ∈ added ∧ blockNr ∈ (startup.starts communityId).visits ∧
        openBlock library
          ((added.takeWhile fun other => other ≠ communityId).foldl (withCommunity library)
            (startDictionary library startup disk))
          (indexFileFor startup disk communityId blockNr)
          (((disk.blockFiles communityId).find? blockNr).getD []) = .ok index
  opens : ∀ communityId ∈ added, ∀ blockNr ∈ (startup.starts communityId).visits, ∃ index,
    (world.stores communityId).cachedBlocks.find? blockNr = some index

/-- The world in which `FileBased::init` looks at its first block. -/
def beforeVisits (start : CommunityStart) (communityId : String) (world : CommunityWorld Octet) :
    CommunityWorld Octet :=
  if !start.publicKeysOpened || false then world.removeAllBlockIndexFiles communityId else world

/-- Starting a community leaves the stores of the others alone. -/
theorem beforeVisits_of_ne (start : CommunityStart) {communityId other : String}
    (differ : other ≠ communityId) (world : CommunityWorld Octet) :
    (beforeVisits start communityId world).stores other = world.stores other := by
  unfold beforeVisits
  split
  · exact setStore_of_ne _ differ _
  · rfl

/-- The steps before the first block is read leave the dictionary of communities alone. -/
theorem beforeVisits_dictionary (start : CommunityStart) (communityId : String)
    (world : CommunityWorld Octet) :
    (beforeVisits start communityId world).communityIdIndex = world.communityIdIndex := by
  unfold beforeVisits
  split
  · rfl
  · rfl

/-- What the start leaves of a community's own index files. -/
theorem beforeVisits_self (start : CommunityStart) (communityId : String)
    (world : CommunityWorld Octet) :
    (beforeVisits start communityId world).stores communityId =
      { world.stores communityId with
        indexFiles := if start.publicKeysOpened then (world.stores communityId).indexFiles
          else ∅ } := by
  unfold beforeVisits
  cases start.publicKeysOpened with
  | true => rfl
  | false => exact setStore_self _ _ _

/-- `FileBased::init` of one more community. -/
theorem Loaded.initFileBased {startup : Startup} {disk : Disk} {added : List String}
    {world next : CommunityWorld Octet} (held : Loaded library startup disk added world)
    {communityId : String} (fresh : communityId ∉ added)
    (success : initFileBased library (startup.starts communityId) communityId false world =
      (.ok true, next)) :
    next.communityIdIndex = world.communityIdIndex ∧
      (∀ other, other ≠ communityId → next.stores other = world.stores other) ∧
      (next.stores communityId).blockFiles = disk.blockFiles communityId ∧
      (∀ blockNr index, (next.stores communityId).cachedBlocks.find? blockNr = some index ↔
        blockNr ∈ (startup.starts communityId).visits ∧
          openBlock library world.communityIdIndex
            (indexFileFor startup disk communityId blockNr)
            (((disk.blockFiles communityId).find? blockNr).getD []) = .ok index) ∧
      ∀ blockNr ∈ (startup.starts communityId).visits, ∃ index,
        (next.stores communityId).cachedBlocks.find? blockNr = some index := by
  obtain ⟨_, reached, visited, ended⟩ := Fallible.andThen_ok_iff.mp success
  cases (Prod.mk.inj ended).2
  have start := beforeVisits_self (startup.starts communityId) communityId world
  have nothing : Visited library
      (beforeVisits (startup.starts communityId) communityId world) communityId []
      (beforeVisits (startup.starts communityId) communityId world) := by
    refine ⟨rfl, fun _ _ => rfl, rfl, rfl, fun blockNr index => ?_,
      fun _ member => (List.not_mem_nil member).elim⟩
    rw [start, held.cached]
    simp [fresh]
  have held' := nothing.forEach visited
  refine ⟨held'.dictionary.trans (beforeVisits_dictionary _ _ _),
    fun other differ => (held'.others other differ).trans (beforeVisits_of_ne _ differ _), ?_,
    fun blockNr index => ?_, fun blockNr member => ?_⟩
  · rw [held'.blockFiles, start]
    exact held.blockFiles communityId
  · rw [held'.cached, List.nil_append]
    unfold Opens
    rw [beforeVisits_dictionary, start]
    dsimp only
    rw [held.blockFiles, held.indexFiles communityId fresh, indexFileFor]
    cases (startup.starts communityId).publicKeysOpened with
    | true => rfl
    | false => rfl
  · obtain ⟨index, opened⟩ := held'.opens blockNr member
    exact ⟨index, (held'.cached blockNr index).mpr ⟨member, opened⟩⟩

/-- The community gets its number. -/
theorem getOrAddIndexForString_ok {dictionary next : Dictionary Octet} {communityId : String}
    {putOk : Bool} {number : UInt32}
    (success : Dictionary.getOrAddIndexForString library.signatureOctet (idBytes communityId) putOk
      dictionary = (.ok number, next)) : next = withCommunity library dictionary communityId := by
  unfold withCommunity
  unfold Dictionary.getOrAddIndexForString at success ⊢
  cases outcome : dictionary.findIndexForString library.signatureOctet (idBytes communityId) with
  | error exception =>
      rw [outcome] at success
      cases success
  | ok index =>
      rw [outcome] at success
      dsimp only at success ⊢
      split at success
      · rename_i isZero
        rw [if_pos isZero]
        cases putOk with
        | true => exact (Prod.mk.inj success).2.symm
        | false => cases success
      · rename_i positive
        rw [if_neg positive]
        exact (Prod.mk.inj success).2.symm

/-- Those whose turn is before that of a community do not depend on what comes after it. -/
theorem takeWhile_append_of_mem {communityId : String} {added : List String}
    (member : communityId ∈ added) (more : List String) :
    (added ++ more).takeWhile (fun other => decide (other ≠ communityId)) =
      added.takeWhile fun other => decide (other ≠ communityId) := by
  induction added with
  | nil => cases member
  | cons head rest ih =>
      by_cases same : head = communityId
      · simp [same]
      · have inRest := (List.mem_cons.mp member).resolve_left (Ne.symm same)
        have step := ih inRest
        simp only [List.cons_append, List.takeWhile_cons]
        rw [step]

/-- The communities loaded before a new one are those in front of it. -/
theorem takeWhile_append_self {communityId : String} {added : List String}
    (fresh : communityId ∉ added) (more : List String) :
    (added ++ communityId :: more).takeWhile (fun other => decide (other ≠ communityId)) =
      added := by
  have differ : ∀ other ∈ added, decide (other ≠ communityId) = true :=
    fun other member => decide_eq_true fun same => fresh (same ▸ member)
  rw [List.takeWhile_append_of_pos differ]
  simp

/-- One more community is loaded and numbered. -/
theorem Loaded.add {startup : Startup} {disk : Disk} {added : List String}
    {world middle next : CommunityWorld Octet} (held : Loaded library startup disk added world)
    {communityId : String} (fresh : communityId ∉ added)
    (initialised : CommunityWorld.initFileBased library (startup.starts communityId) communityId
      false world = (.ok true, middle)) {number : UInt32}
    (numbered : onDictionary (Dictionary.getOrAddIndexForString library.signatureOctet
      (idBytes communityId) (startup.starts communityId).putOk) middle = (.ok number, next)) :
    Loaded library startup disk (added ++ [communityId]) next := by
  obtain ⟨dictionary, others, blockFiles, cached, opens⟩ := held.initFileBased fresh initialised
  obtain ⟨after, gotNumber, rfl⟩ := Fallible.onPart_ok_iff.mp numbered
  have isAfter := getOrAddIndexForString_ok gotNumber
  refine ⟨?_, fun other => ?_, fun other absent => ?_, fun other blockNr index => ?_,
    fun other memberAppend blockNr visited => ?_⟩
  · rw [List.foldl_append, ← held.dictionary, ← dictionary]
    exact isAfter
  · by_cases same : other = communityId
    · rw [same]
      exact blockFiles
    · change (middle.stores other).blockFiles = _
      rw [others other same]
      exact held.blockFiles other
  · rw [List.mem_append, List.mem_singleton, not_or] at absent
    change (middle.stores other).indexFiles = _
    rw [others other absent.2]
    exact held.indexFiles other absent.1
  · change (middle.stores other).cachedBlocks.find? blockNr = some index ↔ _
    by_cases same : other = communityId
    · rw [same, takeWhile_append_self fresh, cached, held.dictionary]
      simp
    · rw [others other same, held.cached]
      constructor
      · rintro ⟨member, visits, opened⟩
        rw [takeWhile_append_of_mem member]
        exact ⟨List.mem_append_left _ member, visits, opened⟩
      · rintro ⟨memberAppend, visits, opened⟩
        have member : other ∈ added :=
          (List.mem_append.mp memberAppend).resolve_right fun last =>
            same (List.mem_singleton.mp last)
        rw [takeWhile_append_of_mem member] at opened
        exact ⟨member, visits, opened⟩
  · change ∃ index, (middle.stores other).cachedBlocks.find? blockNr = some index
    by_cases same : other = communityId
    · subst same
      exact opens blockNr visited
    · have member : other ∈ added :=
        (List.mem_append.mp memberAppend).resolve_right fun last => same (List.mem_singleton.mp last)
      rw [others other same]
      exact held.opens other member blockNr visited

/-- Before the first community the world is that of the disk. -/
theorem loaded_nil (startup : Startup) (disk : Disk) {world : CommunityWorld Octet}
    (dictionary : world.communityIdIndex = startDictionary library startup disk)
    (stores : world.stores = (ofDisk disk : CommunityWorld Octet).stores) :
    Loaded library startup disk [] world := by
  refine ⟨dictionary, fun communityId => ?_, fun communityId _ => ?_,
    fun communityId blockNr index => ?_, fun _ member => (List.not_mem_nil member).elim⟩
  · rw [stores]
    rfl
  · rw [stores]
    rfl
  · rw [stores]
    simp [ofDisk]

/-- Opening the dictionary of communities loads none of them. -/
theorem loaded_of_openCommunityIdIndex {startup : Startup} {disk : Disk} {reset : Bool}
    {provider next : FileBasedProvider String (CommunityWorld Octet)}
    (atDisk : provider.world = ofDisk disk)
    (success : FileBasedProvider.openCommunityIdIndex (initCalls library startup) provider =
      (.ok reset, next)) : Loaded library startup disk [] next.world := by
  obtain ⟨isOpen, middle, tries, resets⟩ := Fallible.andThen_ok_iff.mp success
  obtain ⟨world, outcome, rfl⟩ := Fallible.onPart_ok_iff.mp tries
  have initialises : communityIdIndexInit library startup.opened (ofDisk disk) =
      (.ok isOpen, world) := atDisk ▸ outcome
  unfold communityIdIndexInit at initialises
  by_cases opened : startup.opened = true
  · rw [if_pos opened] at initialises
    cases initialises
    cases (Prod.mk.inj resets).2
    refine loaded_nil startup disk ?_ rfl
    rw [startDictionary, if_pos opened]
    rfl
  · rw [if_neg opened] at initialises
    cases initialises
    rw [if_neg Bool.false_ne_true] at resets
    obtain ⟨_, emptied, empties, ended⟩ := Fallible.andThen_ok_iff.mp resets
    cases (Prod.mk.inj ended).2
    obtain ⟨world, resetOutcome, rfl⟩ := Fallible.onPart_ok_iff.mp empties
    cases resetOutcome
    refine loaded_nil startup disk ?_ rfl
    rw [startDictionary, if_neg opened]
    rfl

/-- A community that was added was loaded and numbered. -/
theorem Loaded.addCommunity {startup : Startup} {disk : Disk} {added : List String}
    {provider next : FileBasedProvider String (CommunityWorld Octet)}
    (held : Loaded library startup disk added provider.world) {communityId : String}
    (fresh : communityId ∉ added) {reset : Bool}
    (success : FileBasedProvider.addCommunity
      (communityCalls library (startup.starts communityId) communityId) communityId reset provider =
        (.ok true, next)) :
    Loaded library startup disk (added ++ [communityId]) next.world := by
  unfold FileBasedProvider.addCommunity at success
  split at success
  · rename_i wasAdded after outcome
    cases success
    obtain ⟨_, created, creates, initialises⟩ := Fallible.andThen_ok_iff.mp outcome
    obtain ⟨world, createOutcome, rfl⟩ := Fallible.onPart_ok_iff.mp creates
    have unchanged : world = provider.world := (Prod.mk.inj createOutcome).2.symm
    unfold FileBasedProvider.initBlockchain at initialises
    split at initialises
    · rename_i initialised inits
      obtain ⟨middle, initOutcome, rfl⟩ := Fallible.onPart_ok_iff.mp inits
      obtain ⟨number, numbered, numbers, ended⟩ := Fallible.andThen_ok_iff.mp initialises
      obtain ⟨after, numberOutcome, rfl⟩ := Fallible.onPart_ok_iff.mp numbers
      cases (Prod.mk.inj ended).2
      have atStart : CommunityWorld.initFileBased library (startup.starts communityId) communityId
          false provider.world = (.ok true, middle) := unchanged ▸ initOutcome
      exact held.add fresh atStart numberOutcome
    · cases initialises
    · cases initialises
  · split at success
    · cases success
    · cases success

/-- Adding communities in a row loads them in that order. -/
theorem Loaded.addCommunities {startup : Startup} {disk : Disk} {added communitiesIds : List String}
    {provider next : FileBasedProvider String (CommunityWorld Octet)}
    (held : Loaded library startup disk added provider.world)
    (nodup : (added ++ communitiesIds).Nodup) {reset : Bool}
    (success : FileBasedProvider.addCommunities
      (fun communityId => communityCalls library (startup.starts communityId) communityId) reset
      communitiesIds provider = (.ok true, next)) :
    Loaded library startup disk (added ++ communitiesIds) next.world := by
  induction communitiesIds generalizing added provider with
  | nil =>
      cases success
      rw [List.append_nil]
      exact held
  | cons communityId rest ih =>
      have fresh : communityId ∉ added := fun member =>
        (List.nodup_append.mp nodup).2.2 _ member _ (List.mem_cons_self ..) rfl
      have split : added ++ communityId :: rest = added ++ [communityId] ++ rest := by simp
      rw [split] at nodup ⊢
      obtain ⟨_, middle, topic, continues⟩ := Fallible.andThen_ok_iff.mp success
      cases (Prod.mk.inj topic).2
      obtain ⟨wasAdded, after, adds, later⟩ := Fallible.andThen_ok_iff.mp continues
      cases wasAdded with
      | true => exact ih (held.addCommunity fresh adds) nodup later
      | false => cases later

/-- Scheduling the tasks of step 2 leaves the world alone. -/
theorem world_of_scheduleInitOnline {startup : Startup} {communitiesIds : List String}
    {provider next : FileBasedProvider String (CommunityWorld Octet)}
    (success : Fallible.forEach (FileBasedProvider.scheduleInitOnline
      fun communityId => communityCalls library (startup.starts communityId) communityId)
      communitiesIds provider = (.ok (), next)) : next.world = provider.world := by
  induction communitiesIds generalizing provider with
  | nil =>
      cases success
      rfl
  | cons communityId rest ih =>
      obtain ⟨_, middle, schedules, later⟩ := Fallible.andThen_ok_iff.mp success
      obtain ⟨_, online, starts, marks⟩ := Fallible.andThen_ok_iff.mp schedules
      obtain ⟨world, outcome, rfl⟩ := Fallible.onPart_ok_iff.mp starts
      rw [ih later, ← (Prod.mk.inj marks).2]
      exact (Prod.mk.inj outcome).2.symm

/-- `init` that returns true has loaded and numbered every community. -/
theorem loaded_of_init {startup : Startup} {disk : Disk}
    {after : FileBasedProvider String (CommunityWorld Octet)}
    (success : FileBasedProvider.init (initCalls library startup)
      (FileBasedProvider.new (ofDisk disk)) = (.ok true, after)) :
    Loaded library startup disk startup.communitiesIds after.world := by
  obtain ⟨_, started, starts, continues⟩ := Fallible.andThen_ok_iff.mp success
  cases (Prod.mk.inj starts).2
  split at continues
  · cases continues
  · obtain ⟨reset, opened, opens, loads⟩ := Fallible.andThen_ok_iff.mp continues
    obtain ⟨_, indexed, indexes, lists⟩ := Fallible.andThen_ok_iff.mp loads
    obtain ⟨_, listed, listing, loading⟩ := Fallible.andThen_ok_iff.mp lists
    cases listing
    have nothing : Loaded library startup disk [] indexed.world := by
      have opened' := loaded_of_openCommunityIdIndex rfl opens
      rw [← (Prod.mk.inj indexes).2]
      exact opened'
    obtain ⟨added, all, adds, schedules⟩ := Fallible.andThen_ok_iff.mp loading
    cases added with
    | false => cases schedules
    | true =>
        have held := Loaded.addCommunities nothing startup.nodup adds
        obtain ⟨_, scheduled, tasks, ended⟩ := Fallible.andThen_ok_iff.mp schedules
        cases (Prod.mk.inj ended).2
        rw [world_of_scheduleInitOnline tasks]
        exact held

/-! ## Meaning after the start -/

/-- A number in a block index means the coin community in the end where it is kept. -/
theorem meansCoinCommunity_iff {startup : Startup} {disk : Disk} {number : UInt32}
    {coinCommunityId : String} :
    MeansCoinCommunity (startup.communitiesIds.foldl (withCommunity library)
        (startDictionary library startup disk)) number coinCommunityId ↔
      EntryKept library startup disk number coinCommunityId := by
  unfold MeansCoinCommunity EntryKept
  rw [getStringForIndex_ok_iff, numberKept_iff]

/-- A block opened without an index file has the index of its transactions. -/
theorem rebuiltFrom_of_openBlock {dictionary : Dictionary Octet} {index : BlockIndex}
    {transactions : List NodeTransactionEntry}
    (opened : openBlock library dictionary none transactions = .ok index) :
    RebuiltFrom (getCommunityIdIndex library dictionary) transactions 0 BlockIndex.new index := by
  unfold openBlock at opened
  dsimp only at opened
  apply rebuiltFrom_of_indexEntries
  cases outcome : indexEntries (getCommunityIdIndex library dictionary) transactions 0
      BlockIndex.new with
  | mk result rebuilt =>
      rw [outcome] at opened
      cases result with
      | error exception => cases opened
      | ok value =>
          cases opened
          rfl

/-- A coin community that is named has its number looked up. -/
theorem coinCommunityIndexOf_of_ne {getCommunityIdIndex : String → Except Exception UInt32}
    {transaction : NodeTransactionEntry} (notEmpty : transaction.coinCommunityId ≠ "") :
    coinCommunityIndexOf getCommunityIdIndex transaction =
      getCommunityIdIndex transaction.coinCommunityId := by
  unfold coinCommunityIndexOf
  rw [if_neg fun isEmpty => notEmpty (String.isEmpty_iff.mp isEmpty)]

/-- In an ascending block a number belongs to one transaction. -/
theorem eq_of_transactionNr_eq {transactions : List NodeTransactionEntry}
    (ascending : transactions.Pairwise fun first second =>
      first.transactionNr < second.transactionNr)
    {first second : NodeTransactionEntry} (firstMember : first ∈ transactions)
    (secondMember : second ∈ transactions)
    (same : first.transactionNr = second.transactionNr) : first = second := by
  have distinct : (transactions.map NodeTransactionEntry.transactionNr).Nodup :=
    List.pairwise_map.mpr (ascending.imp ne_of_lt)
  exact List.inj_on_of_nodup_map distinct firstMember secondMember same

/-- The index of a block that was looked at is meaningful in the end where its numbers are kept. -/
theorem indexMeaningful_iff {startup : Startup} {disk : Disk} {communityId : String}
    {blockNr : UInt32} {index : BlockIndex} {transactions : List NodeTransactionEntry}
    (opened : openBlock library (dictionaryBefore library startup disk communityId)
      (indexFileFor startup disk communityId blockNr) transactions = .ok index) :
    IndexMeaningful (startup.communitiesIds.foldl (withCommunity library)
        (startDictionary library startup disk)) index transactions ↔
      BlockKept library startup disk communityId blockNr transactions := by
  unfold BlockKept IndexMeaningful
  cases file : indexFileFor startup disk communityId blockNr with
  | some stored =>
      rw [file] at opened
      cases opened
      simp only [meansCoinCommunity_iff]
  | none =>
      rw [file] at opened
      have rebuilt := rebuiltFrom_of_openBlock opened
      constructor
      · intro meaningful transaction member notEmpty number found
        obtain ⟨entry, present, sameNr, looked⟩ := rebuilt.indexed transaction member
        have means := meansCoinCommunity_iff.mp
          (meaningful entry present transaction member sameNr.symm)
        unfold EntryKept at means
        rw [if_neg notEmpty] at means
        rw [coinCommunityIndexOf_of_ne notEmpty, found] at looked
        rw [Except.ok.inj looked]
        exact means.2
      · intro kept entry present transaction member sameNr
        rw [meansCoinCommunity_iff]
        obtain ⟨source, sourceMember, sourceNr, looked⟩ :=
          (rebuilt.entries entry present).resolve_left nofun
        have isSource : transaction = source :=
          eq_of_transactionNr_eq rebuilt.ascending member sourceMember (sameNr.trans sourceNr)
        rw [← isSource] at looked
        unfold EntryKept
        by_cases empty : transaction.coinCommunityId = ""
        · rw [if_pos empty]
          unfold coinCommunityIndexOf at looked
          rw [empty] at looked
          exact (Except.ok.inj looked).symm
        · rw [if_neg empty]
          rw [coinCommunityIndexOf_of_ne empty] at looked
          exact ⟨(getStringForIndex_of_found looked).1,
            kept transaction member empty _ looked⟩

/-- The block indices in memory after a start are meaningful where the numbers of the blocks that
were looked at are kept. -/
theorem indicesMeaningful_iff {startup : Startup} {disk : Disk}
    {after : FileBasedProvider String (CommunityWorld Octet)}
    (success : FileBasedProvider.init (initCalls library startup)
      (FileBasedProvider.new (ofDisk disk)) = (.ok true, after)) :
    IndicesMeaningful after.world ↔ NumbersKept library startup disk := by
  have held := loaded_of_init success
  unfold IndicesMeaningful NumbersKept
  rw [held.dictionary]
  constructor
  · intro meaningful communityId member blockNr visited
    obtain ⟨index, cached⟩ := held.opens communityId member blockNr visited
    obtain ⟨_, _, opened⟩ := (held.cached communityId blockNr index).mp cached
    have isMeaningful := meaningful communityId blockNr index cached
    rw [held.blockFiles] at isMeaningful
    exact (indexMeaningful_iff opened).mp isMeaningful
  · intro kept communityId blockNr index cached
    obtain ⟨member, visited, opened⟩ := (held.cached communityId blockNr index).mp cached
    rw [held.blockFiles]
    exact (indexMeaningful_iff opened).mpr (kept communityId member blockNr visited)

section Example

def exampleLibrary : DictionaryLibrary (List UInt8) where
  signatureOctet := fun string => string.take 8
  binToHex := fun _ => ""

/-- A transaction of community a with coins of community c. -/
def exampleTransaction : NodeTransactionEntry where
  transactionNr := 1
  month := 1
  year := 2025
  transactionType := 1
  coinCommunityId := "c"
  serializedTransaction := [1]
  addressIndices := [1]
  fileCursor := 0

/-- The index of a block with that transaction, written when c had number 1. -/
def exampleIndex : BlockIndex :=
  (BlockIndex.addIndicesForTransactionEntry (fun _ => .ok 1) exampleTransaction BlockIndex.new).2

/-- The entry of that transaction. -/
def exampleEntry : BlockIndexEntry where
  transactionNr := 1
  addressIndices := [1]
  coinCommunityIdIndex := 1
  transactionType := 1
  addressIndiceCount := 1

/-- The example index has one entry. -/
theorem allEntries_exampleIndex : exampleIndex.allEntries = [exampleEntry] := rfl

/-- Community c was added first, and then a. -/
def exampleDisk : Disk where
  folderName := "communityIdsCache"
  communityIds := ((∅ : LevelDB).set ['1'] (idBytes "c")).set ['2'] (idBytes "a")
  blockFiles := fun communityId =>
    if communityId = "a" then (∅ : OrderedMap UInt32 _).set 1 [exampleTransaction] else ∅
  indexFiles := fun communityId =>
    if communityId = "a" then (∅ : OrderedMap UInt32 _).set 1 exampleIndex else ∅

/-- A start with community a alone, which looks at its block 1. -/
def exampleStartup (opened : Bool) : Startup where
  hieroClients := 3
  hieroClientsPerCommunity := 3
  opened := opened
  communitiesIds := ["a"]
  nodup := by decide
  starts := fun _ => {
    topicId := .ok ()
    create := .ok ()
    updateListenerCommunity := .ok ()
    initOnline := .ok ()
    publicKeysOpened := true
    visits := [1]
    rest := .ok true
    putOk := true }

/-- With the dictionary opened, number 1 still stands for c. -/
theorem indicesMeaningful_opened : ∃ after,
    FileBasedProvider.init (initCalls exampleLibrary (exampleStartup true))
      (FileBasedProvider.new (ofDisk exampleDisk)) = (.ok true, after) ∧
      IndicesMeaningful after.world := by
  refine ⟨_, rfl, (@indicesMeaningful_iff _ _ exampleLibrary (exampleStartup true) exampleDisk _
    rfl).mpr ?_⟩
  intro communityId member blockNr visited
  cases List.mem_singleton.mp member
  cases List.mem_singleton.mp visited
  intro entry present transaction inBlock _
  rw [allEntries_exampleIndex] at present
  rw [List.mem_singleton.mp present]
  rw [List.mem_singleton.mp (inBlock : transaction ∈ [exampleTransaction])]
  exact ⟨by decide, rfl, rfl⟩

/-- With the dictionary started anew, number 1 goes to a, and the index of block 1 was loaded from
its file, which was meaningful before. -/
theorem not_indicesMeaningful_reset :
    IndexMeaningful (Dictionary.new exampleDisk.folderName exampleDisk.communityIds :
      Dictionary (List UInt8)) exampleIndex [exampleTransaction] ∧
    ∃ after, FileBasedProvider.init (initCalls exampleLibrary (exampleStartup false))
      (FileBasedProvider.new (ofDisk exampleDisk)) = (.ok true, after) ∧
      ¬ IndicesMeaningful after.world := by
  refine ⟨?_, _, rfl, fun meaningful => ?_⟩
  · intro entry present transaction inBlock _
    rw [allEntries_exampleIndex] at present
    rw [List.mem_singleton.mp present, List.mem_singleton.mp inBlock]
    exact ⟨by decide, rfl⟩
  · have means := meaningful "a" 1 exampleIndex rfl exampleEntry (List.mem_singleton_self _)
      exampleTransaction (List.mem_singleton_self _) rfl
    have differ : idBytes "a" ≠ idBytes "c" := by decide
    exact differ (Except.ok.inj means.2)

end Example

end Blockchain.CommunityWorld

end GradidoNode
