import GradidoNode.Files.BlockIndexWalk

/-!
# What the hash of an index file covers

The bytes fed into the hash give back every field of every block but the
transaction types, so exactly a change of nothing but types goes unnoticed.
-/

namespace GradidoNode

open Library

namespace Files

open BlockTypes

/-- The data block with every field but its transaction type. -/
def DataBlock.withoutTransactionType (block : DataBlock) : DataBlock :=
  { block with transactionType := 0 }

/-- A block as far as its hash tells. -/
def IndexBlock.withoutTransactionType : IndexBlock → IndexBlock
  | yearBlock year => .yearBlock year
  | monthBlock month => .monthBlock month
  | dataBlock block => .dataBlock block.withoutTransactionType

/-- The blocks differ in more than the transaction types of their data blocks. -/
def DifferBeyondTypes (blocks others : List IndexBlock) : Prop :=
  blocks.map IndexBlock.withoutTransactionType ≠ others.map IndexBlock.withoutTransactionType

instance (blocks others : List IndexBlock) : Decidable (DifferBeyondTypes blocks others) :=
  inferInstanceAs (Decidable (_ ≠ _))

/-- The bytes fed into the hash for a sequence of blocks. -/
def hashInput (blocks : List IndexBlock) : List UInt8 := blocks.flatMap IndexBlock.hashed

theorem IndexBlock.hashed_withoutTransactionType (block : IndexBlock) :
    block.withoutTransactionType.hashed = block.hashed := by
  cases block <;> rfl

/-- The hash does not see the transaction types. -/
theorem hashInput_withoutTransactionType (blocks : List IndexBlock) :
    hashInput (blocks.map IndexBlock.withoutTransactionType) = hashInput blocks := by
  simp only [hashInput, List.flatMap_map, IndexBlock.hashed_withoutTransactionType]

theorem DataBlock.hashed_append_inj {block other : DataBlock} {rest otherRest : List UInt8}
    (same : block.hashed ++ rest = other.hashed ++ otherRest) :
    block.withoutTransactionType = other.withoutTransactionType ∧ rest = otherRest := by
  simp only [hashed, List.append_assoc, List.cons_append, List.nil_append,
    List.cons.injEq, true_and] at same
  obtain ⟨transactionNrs, same⟩ := LittleEndian.encode_append_inj same
  obtain ⟨fileCursors, same⟩ := LittleEndian.encode_append_inj same
  obtain ⟨communities, same⟩ := LittleEndian.encode_append_inj same
  obtain ⟨counts, same⟩ := LittleEndian.encode_append_inj same
  have lengths : block.addressIndices.length = other.addressIndices.length := by
    rw [← block.toNat_addressIndicesCount, counts, other.toNat_addressIndicesCount]
  obtain ⟨indices, rests⟩ := LittleEndian.encodeArray_append_inj lengths same
  refine ⟨?_, rests⟩
  simp only [withoutTransactionType, transactionNrs, fileCursors, communities, indices]

theorem IndexBlock.hashed_eq_cons (block : IndexBlock) :
    ∃ fields, block.hashed = block.type :: fields := by
  cases block with
  | yearBlock year => exact ⟨_, rfl⟩
  | monthBlock month => exact ⟨_, rfl⟩
  | dataBlock data => exact ⟨_, rfl⟩

/-- The type byte in front of each block and the count in front of the indices
say where the block ends. -/
theorem IndexBlock.hashed_append_inj {block other : IndexBlock} {rest otherRest : List UInt8}
    (same : block.hashed ++ rest = other.hashed ++ otherRest) :
    block.withoutTransactionType = other.withoutTransactionType ∧ rest = otherRest := by
  have types : block.type = other.type := by
    obtain ⟨fields, hashed⟩ := block.hashed_eq_cons
    obtain ⟨otherFields, otherHashed⟩ := other.hashed_eq_cons
    rw [hashed, otherHashed] at same
    exact (List.cons.inj same).1
  cases block with
  | yearBlock year =>
      cases other with
      | yearBlock otherYear =>
          obtain ⟨years, rests⟩ := LittleEndian.encode_append_inj (List.cons.inj same).2
          exact ⟨congrArg IndexBlock.yearBlock years, rests⟩
      | monthBlock month => cases types
      | dataBlock data => cases types
  | monthBlock month =>
      cases other with
      | yearBlock year => cases types
      | monthBlock otherMonth =>
          obtain ⟨months, rests⟩ := LittleEndian.encode_append_inj (List.cons.inj same).2
          exact ⟨congrArg IndexBlock.monthBlock months, rests⟩
      | dataBlock data => cases types
  | dataBlock data =>
      cases other with
      | yearBlock year => cases types
      | monthBlock month => cases types
      | dataBlock otherData =>
          obtain ⟨fields, rests⟩ := DataBlock.hashed_append_inj same
          exact ⟨congrArg IndexBlock.dataBlock fields, rests⟩

theorem hashInput_cons (block : IndexBlock) (blocks : List IndexBlock) :
    hashInput (block :: blocks) = block.hashed ++ hashInput blocks :=
  List.flatMap_cons

theorem hashInput_cons_ne_nil (block : IndexBlock) (blocks : List IndexBlock) :
    hashInput (block :: blocks) ≠ [] := by
  obtain ⟨fields, hashed⟩ := block.hashed_eq_cons
  rw [hashInput_cons, hashed]
  exact List.cons_ne_nil _ _

/-- Blocks that feed the same bytes into the hash agree up to their types. -/
theorem withoutTypes_eq_of_hashInput_eq {blocks others : List IndexBlock}
    (same : hashInput blocks = hashInput others) :
    blocks.map IndexBlock.withoutTransactionType =
      others.map IndexBlock.withoutTransactionType := by
  induction blocks generalizing others with
  | nil =>
      cases others with
      | nil => rfl
      | cons other others => exact absurd same.symm (hashInput_cons_ne_nil other others)
  | cons block blocks ih =>
      cases others with
      | nil => exact absurd same (hashInput_cons_ne_nil block blocks)
      | cons other others =>
          rw [hashInput_cons, hashInput_cons] at same
          obtain ⟨heads, rests⟩ := IndexBlock.hashed_append_inj same
          rw [List.map_cons, List.map_cons, heads, ih rests]

/-- Two sequences of blocks feed the same bytes into the hash exactly if they
agree up to the transaction types. -/
theorem hashInput_ne_iff {blocks others : List IndexBlock} :
    hashInput blocks ≠ hashInput others ↔ DifferBeyondTypes blocks others := by
  refine not_congr ⟨withoutTypes_eq_of_hashInput_eq, fun same => ?_⟩
  rw [← hashInput_withoutTransactionType, same, hashInput_withoutTransactionType]

/-- What has to hold of a changed file so that its change is noticed. A changed
address count can make the reading stop at other bytes than the stored hash. -/
structure ChangeShows (genericHash : List UInt8 → Digest) (blocks changed : List IndexBlock)
    (hashFromFile : Digest) : Prop where
  beyondTypes : hashFromFile = genericHash (hashInput blocks) → DifferBeyondTypes blocks changed
  unforged : hashFromFile ≠ genericHash (hashInput blocks) →
    hashFromFile ≠ genericHash (hashInput changed)

variable {Receiver : Type} {genericHash : List UInt8 → Digest} {enumContains : UInt8 → Bool}
  {receive : BlockIndexReceiver Receiver}

/-- A file that parses is accepted exactly if its hash is the one of its blocks. -/
theorem readFromFile_ok_true_iff (uninitialised : Digest) {content : List UInt8}
    {blocks : List IndexBlock} {hashFromFile : Digest} {receiver : Receiver}
    (parses : walkFile enumContains content = (blocks, .hashBlock hashFromFile))
    (received : ∃ next, deliver receive (deliveries 0 0 blocks) receiver = (.ok (), next)) :
    (readFromFile genericHash enumContains uninitialised receive content receiver).1 = .ok true ↔
      hashFromFile = genericHash (hashInput blocks) := by
  have nonempty : content ≠ [] := by
    rintro rfl
    cases parses
  obtain ⟨next, delivered⟩ := received
  rw [readFromFile_eq_deliver genericHash enumContains receive uninitialised nonempty]
  simp only [parses, delivered, hashInput]
  by_cases same : hashFromFile = genericHash (blocks.flatMap IndexBlock.hashed)
  · simp only [same, ↓reduceIte]
  · simp only [same, ↓reduceIte, reduceCtorEq]

/-- The bytes hashed for two sequences of blocks differ exactly if the blocks differ
beyond their transaction types, and so reading a changed file detects exactly the
changes that show. -/
theorem changeDetected_iff (blocks changed : List IndexBlock) :
    (hashInput blocks ≠ hashInput changed ↔ DifferBeyondTypes blocks changed) ∧
      ∀ {Receiver : Type} (genericHash : List UInt8 → Digest) (enumContains : UInt8 → Bool)
        (uninitialised : Digest) (receive : BlockIndexReceiver Receiver) (receiver : Receiver)
        (changedContent : List UInt8) (hashFromFile : Digest),
        walkFile enumContains changedContent = (changed, .hashBlock hashFromFile) →
        (∃ next, deliver receive (deliveries 0 0 changed) receiver = (.ok (), next)) →
        (genericHash (hashInput blocks) = genericHash (hashInput changed) →
          hashInput blocks = hashInput changed) →
        ((readFromFile genericHash enumContains uninitialised receive changedContent
            receiver).1 ≠ .ok true ↔
          ChangeShows genericHash blocks changed hashFromFile) := by
  refine ⟨hashInput_ne_iff, ?_⟩
  intro Receiver genericHash enumContains uninitialised receive receiver changedContent
    hashFromFile parses received collisionFree
  rw [Ne, readFromFile_ok_true_iff uninitialised parses received]
  refine ⟨fun mismatch => ⟨?_, fun _ => mismatch⟩, fun shows same => ?_⟩
  · intro stored
    refine hashInput_ne_iff.mp fun unchanged => mismatch ?_
    rw [stored, unchanged]
  · by_cases stored : hashFromFile = genericHash (hashInput blocks)
    · have inputs := collisionFree (stored.symm.trans same)
      exact hashInput_ne_iff.mpr (shows.beyondTypes stored) inputs
    · exact shows.unforged stored same

section Example

/-- One transaction of the given number and type in May 2024. -/
def exampleBlocks (transactionNr : UInt64) (transactionType : UInt8) : List IndexBlock :=
  [.yearBlock 2024, .monthBlock 5, .dataBlock {
    transactionNr := transactionNr
    fileCursor := 0
    transactionType := transactionType
    coinCommunityIdIndex := 0
    addressIndices := [1]
    addressIndices_lt := by decide }]

/-- `crypto_generichash` of the blocks of transaction 1 and of those of transaction 2. -/
def exampleHash (bytes : List UInt8) : Digest :=
  if bytes = hashInput (exampleBlocks 1 1) then
    ⟨[184, 84, 181, 156, 26, 131, 30, 179, 196, 176, 202, 109, 98, 224, 151, 133,
      60, 216, 110, 45, 205, 235, 105, 192, 171, 171, 59, 165, 137, 10, 166, 35], rfl⟩
  else
    ⟨[40, 132, 41, 103, 201, 145, 170, 198, 164, 41, 253, 48, 112, 29, 131, 73,
      191, 85, 57, 152, 229, 14, 96, 162, 61, 172, 69, 152, 10, 1, 190, 120], rfl⟩

/-- The file with changed blocks and the hash stored for transaction 1. -/
def changedFile (changed : List IndexBlock) : List UInt8 :=
  changed.flatMap IndexBlock.written ++
    HASH_BLOCK :: (exampleHash (hashInput (exampleBlocks 1 1))).1

/-- A changed transaction number is detected. -/
theorem changeDetected_transactionNr :
    hashInput (exampleBlocks 1 1) ≠ hashInput (exampleBlocks 2 1) ∧
      (readFromFile exampleHash (fun type => type ≤ 8) ⟨List.replicate 32 0, rfl⟩
        (fun _ received => (.ok (), received + 1)) (changedFile (exampleBlocks 2 1)) 0).1 ≠
          .ok true := by
  have beyond : DifferBeyondTypes (exampleBlocks 1 1) (exampleBlocks 2 1) := by decide
  have detected := changeDetected_iff (exampleBlocks 1 1) (exampleBlocks 2 1)
  refine ⟨detected.1.mpr beyond, (detected.2 exampleHash (fun type => type ≤ 8) _ _ 0 _
    (exampleHash (hashInput (exampleBlocks 1 1))) (by decide) ⟨1, rfl⟩ ?_).mpr ?_⟩
  · intro collision
    exact absurd collision (by decide)
  · exact ⟨fun _ => beyond, fun other => absurd rfl other⟩

/-- A changed transaction type is not. -/
theorem not_changeDetected_transactionType :
    exampleBlocks 1 1 ≠ exampleBlocks 1 5 ∧
      hashInput (exampleBlocks 1 1) = hashInput (exampleBlocks 1 5) ∧
      readFromFile exampleHash (fun type => type ≤ 8) ⟨List.replicate 32 0, rfl⟩
        (fun _ received => (.ok (), received + 1)) (changedFile (exampleBlocks 1 5)) 0 =
          (.ok true, 1) := by
  refine ⟨by decide, by decide, ?_⟩
  rfl

end Example

end Files

end GradidoNode
