import GradidoNode.Files.BlockIndex

/-!
# Index files as lists of blocks

The blocks a file holds before reading stops, and how it stops, say what any
receiver gets. A written file is read back block by block.
-/

namespace GradidoNode

open Library

namespace Files

open BlockTypes

/-- How the walk over the blocks of an index file ends. -/
inductive Ending
  | hashBlock (hashFromFile : Digest)
  /-- The end of the file or an unknown block type, with no hash block before. -/
  | noHash
  | rejected (exception : Exception)
  deriving DecidableEq

/-- A data block with a negative cursor ends the walk before it is delivered. -/
def IndexBlock.corrupted : IndexBlock → Bool
  | yearBlock _ => false
  | monthBlock _ => false
  | dataBlock data => data.fileCursor < 0

/-- The complete blocks of a file up to where reading stops, and why it stops. -/
def walk (enumContains : UInt8 → Bool) : Nat → VirtualFile → List IndexBlock × Ending
  | 0, _ => ([], .noHash)
  | fuel + 1, vFile =>
      if vFile.cursor < vFile.getSize then
        match nextBlock enumContains vFile with
        | .block block next =>
            if block.corrupted then ([], .rejected (.runtimeError "corrupted index file?"))
            else
              let rest := walk enumContains fuel next
              (block :: rest.1, rest.2)
        | .hash hash => ([], .hashBlock hash)
        | .nullptr => ([], .noHash)
        | .throws exception => ([], .rejected exception)
      else ([], .noHash)

/-- The walk over a whole file. -/
def walkFile (enumContains : UInt8 → Bool) (content : List UInt8) : List IndexBlock × Ending :=
  walk enumContains content.length (VirtualFile.ofBuffer content)

/-- The receiver's arguments for the data blocks among `blocks`. -/
def deliveries : Int16 → UInt8 → List IndexBlock → List TransactionIndices
  | _, _, [] => []
  | _, month, .yearBlock year :: rest => deliveries year month rest
  | year, _, .monthBlock month :: rest => deliveries year month rest
  | year, month, .dataBlock data :: rest => data.indices year month :: deliveries year month rest

/-- What is delivered for a transaction comes from a data block. -/
theorem exists_dataBlock_of_mem_deliveries {year : Int16} {month : UInt8}
    {blocks : List IndexBlock} {indices : TransactionIndices}
    (member : indices ∈ deliveries year month blocks) :
    ∃ data, .dataBlock data ∈ blocks ∧ indices.transactionNr = data.transactionNr := by
  induction blocks generalizing year month with
  | nil => cases member
  | cons block rest ih =>
      have later {year : Int16} {month : UInt8} (member : indices ∈ deliveries year month rest) :
          ∃ data, .dataBlock data ∈ block :: rest ∧
            indices.transactionNr = data.transactionNr := by
        obtain ⟨data, inRest, same⟩ := ih member
        exact ⟨data, List.mem_cons_of_mem _ inRest, same⟩
      cases block with
      | yearBlock other => exact later member
      | monthBlock other => exact later member
      | dataBlock data =>
          rcases List.mem_cons.mp member with rfl | inRest
          · exact ⟨data, List.mem_cons_self .., rfl⟩
          · exact later inRest

/-- Hand a list of arguments to the receiver until it throws. -/
def deliver {Receiver : Type} (receive : BlockIndexReceiver Receiver) :
    List TransactionIndices → Throwing Receiver Unit
  | [], receiver => (.ok (), receiver)
  | indices :: rest, receiver =>
      match receive indices receiver with
      | (.ok (), next) => deliver receive rest next
      | (.error exception, next) => (.error exception, next)

variable {Receiver : Type} (genericHash : List UInt8 → Digest) (enumContains : UInt8 → Bool)
  (receive : BlockIndexReceiver Receiver)

/-- The loop delivers the data blocks of the walk in order, and then ends as the walk ends. -/
theorem readLoop_eq_deliver (fuel : Nat) (locals : ReadState Receiver) :
    readLoop enumContains receive fuel locals =
      match deliver receive (deliveries locals.yearCursor locals.monthCursor
          (walk enumContains fuel locals.vFile).1) locals.receiver with
      | (.error exception, receiver) => (.error exception, receiver)
      | (.ok (), receiver) =>
          match (walk enumContains fuel locals.vFile).2 with
          | .rejected exception => (.error exception, receiver)
          | .hashBlock hash => (.ok (locals.state ++
              (walk enumContains fuel locals.vFile).1.flatMap IndexBlock.hashed, hash), receiver)
          | .noHash => (.ok (locals.state ++
              (walk enumContains fuel locals.vFile).1.flatMap IndexBlock.hashed,
                locals.hashFromFile), receiver) := by
  induction fuel generalizing locals with
  | zero => simp [readLoop, walk, deliveries, deliver]
  | succ fuel ih =>
      by_cases inside : locals.vFile.cursor < locals.vFile.getSize
      · cases found : nextBlock enumContains locals.vFile with
        | hash hash => simp [readLoop, walk, inside, found, deliveries, deliver]
        | nullptr => simp [readLoop, walk, inside, found, deliveries, deliver]
        | throws exception => simp [readLoop, walk, inside, found, deliveries, deliver]
        | block block vFile =>
            cases block with
            | yearBlock year =>
                simp [readLoop, walk, inside, found, receiveBlock, IndexBlock.corrupted, ih,
                  deliveries]
            | monthBlock month =>
                simp [readLoop, walk, inside, found, receiveBlock, IndexBlock.corrupted, ih,
                  deliveries]
            | dataBlock data =>
                by_cases negative : data.fileCursor < 0
                · simp [readLoop, walk, inside, found, receiveBlock, IndexBlock.corrupted,
                    negative, deliveries, deliver]
                · cases given : receive (data.indices locals.yearCursor locals.monthCursor)
                      locals.receiver with
                  | mk outcome receiver =>
                      cases outcome with
                      | ok _ =>
                          simp [readLoop, walk, inside, found, receiveBlock,
                            IndexBlock.corrupted, negative, ih, deliveries, deliver, given]
                      | error exception =>
                          simp [readLoop, walk, inside, found, receiveBlock,
                            IndexBlock.corrupted, negative, deliveries, deliver, given]
      · simp [readLoop, walk, inside, deliveries, deliver]

/-- What reading a file comes to, in terms of its walk. -/
theorem readFromFile_eq_deliver (uninitialised : Digest) {content : List UInt8}
    (nonempty : content ≠ []) (receiver : Receiver) :
    readFromFile genericHash enumContains uninitialised receive content receiver =
      match deliver receive (deliveries 0 0 (walkFile enumContains content).1) receiver with
      | (.error exception, receiver) => (.error exception, receiver)
      | (.ok (), receiver) =>
          let calculated := genericHash
            ((walkFile enumContains content).1.flatMap IndexBlock.hashed)
          match (walkFile enumContains content).2 with
          | .rejected exception => (.error exception, receiver)
          | .hashBlock hash =>
              if hash = calculated then (.ok true, receiver)
              else (.error (.hashMismatch "block index file hash mismatch" hash.1
                calculated.1), receiver)
          | .noHash =>
              if uninitialised = calculated then (.ok true, receiver)
              else (.error (.hashMismatch "block index file hash mismatch" uninitialised.1
                calculated.1), receiver) := by
  have notEmpty : content.isEmpty = false := by
    cases content with
    | nil => exact absurd rfl nonempty
    | cons _ _ => rfl
  simp only [readFromFile, notEmpty, Bool.false_eq_true, ↓reduceIte, readLoop_eq_deliver,
    walkFile]
  cases deliver receive (deliveries 0 0 (walk enumContains content.length
      (VirtualFile.ofBuffer content)).1) receiver with
  | mk outcome receiver =>
      cases outcome with
      | error exception => rfl
      | ok _ => cases (walk enumContains content.length (VirtualFile.ofBuffer content)).2 <;> rfl

/-- The file carries a hash block, and its hash is the one of the blocks before it. -/
def HasValidHash (content : List UInt8) : Prop :=
  (walkFile enumContains content).2 =
    .hashBlock (genericHash ((walkFile enumContains content).1.flatMap IndexBlock.hashed))

instance (content : List UInt8) : Decidable (HasValidHash genericHash enumContains content) :=
  inferInstanceAs (Decidable (_ = _))

/-- The entries an index file holds: the data blocks that reading it delivers. -/
def entriesOf (content : List UInt8) : List TransactionIndices :=
  deliveries 0 0 (walkFile enumContains content).1

section Written

variable {enumContains}

/-- A data block whose transaction type the enum knows. -/
def IndexBlock.Readable (enumContains : UInt8 → Bool) : IndexBlock → Prop
  | yearBlock _ => True
  | monthBlock _ => True
  | dataBlock data => enumContains data.transactionType = true ∧ ¬ data.fileCursor < 0

theorem IndexBlock.Readable.not_corrupted {block : IndexBlock}
    (readable : block.Readable enumContains) : block.corrupted = false := by
  cases block with
  | yearBlock year => rfl
  | monthBlock month => rfl
  | dataBlock data => exact decide_eq_false readable.2

theorem DataBlock.readFromFile_body {block : DataBlock} {vFile : VirtualFile}
    {rest : List UInt8} (known : enumContains block.transactionType = true)
    (left : vFile.remaining = block.body ++ rest) :
    ∃ next, DataBlock.readFromFile enumContains vFile = .ok (block, next) ∧
      next.remaining = rest := by
  simp only [DataBlock.body, List.append_assoc] at left
  obtain ⟨file₁, read₁, left₁⟩ := VirtualFile.readWord_of_remaining left
  obtain ⟨file₂, read₂, left₂⟩ := VirtualFile.readWord_of_remaining left₁
  obtain ⟨file₃, read₃, left₃⟩ := VirtualFile.readWord_of_remaining left₂
  obtain ⟨file₄, read₄, left₄⟩ := VirtualFile.readWord_of_remaining left₃
  obtain ⟨file₅, read₅, left₅⟩ := VirtualFile.readWord_of_remaining left₄
  obtain ⟨file₆, read₆, left₆⟩ := VirtualFile.read_of_remaining left₅
  have width : (LittleEndian.encodeArray block.addressIndices).length =
      4 * block.addressIndicesCount.toNat := by
    rw [LittleEndian.length_encodeArray, block.toNat_addressIndicesCount]
    rfl
  rw [width] at read₆
  have indices : LittleEndian.decodeArray UInt32 block.addressIndicesCount.toNat
      (LittleEndian.encodeArray block.addressIndices) = block.addressIndices := by
    rw [block.toNat_addressIndicesCount, LittleEndian.decodeArray_encodeArray]
  refine ⟨file₆, ?_, left₆⟩
  simp only [DataBlock.readFromFile, bind, Except.bind, read₁, read₂, read₃, known, Bool.not_true,
    Bool.false_eq_true, ↓reduceIte, pure, Except.pure, read₄, read₅, read₆, indices]

/-- The next block of a file is the one written there. -/
theorem nextBlock_written {block : IndexBlock} {vFile : VirtualFile} {rest : List UInt8}
    (readable : block.Readable enumContains)
    (left : vFile.remaining = block.written ++ rest) :
    ∃ next, nextBlock enumContains vFile = .block block next ∧ next.remaining = rest := by
  have typed : vFile.remaining = LittleEndian.encode block.type ++ (block.body ++ rest) := left
  obtain ⟨file, typeRead, left⟩ := VirtualFile.readWord_of_remaining typed
  cases block with
  | yearBlock year =>
      obtain ⟨next, bodyRead, nextLeft⟩ := VirtualFile.readWord_of_remaining left
      refine ⟨next, ?_, nextLeft⟩
      simp [nextBlock, typeRead, readBlock, IndexBlock.type, YEAR_BLOCK, HASH_BLOCK, DATA_BLOCK,
        MONTH_BLOCK, bodyRead, bind, Except.bind, pure, Except.pure]
  | monthBlock month =>
      obtain ⟨next, bodyRead, nextLeft⟩ := VirtualFile.readWord_of_remaining left
      refine ⟨next, ?_, nextLeft⟩
      simp [nextBlock, typeRead, readBlock, IndexBlock.type, HASH_BLOCK, DATA_BLOCK,
        MONTH_BLOCK, bodyRead, bind, Except.bind, pure, Except.pure]
  | dataBlock data =>
      obtain ⟨next, bodyRead, nextLeft⟩ := DataBlock.readFromFile_body readable.1 left
      refine ⟨next, ?_, nextLeft⟩
      simp [nextBlock, typeRead, readBlock, IndexBlock.type, HASH_BLOCK, DATA_BLOCK, bodyRead,
        bind, Except.bind, pure, Except.pure]

theorem nextBlock_hash {hash : Digest} {vFile : VirtualFile} {rest : List UInt8}
    (left : vFile.remaining = HASH_BLOCK :: hash.1 ++ rest) :
    nextBlock enumContains vFile = .hash hash := by
  have typed : vFile.remaining = LittleEndian.encode HASH_BLOCK ++ (hash.1 ++ rest) := left
  obtain ⟨file, typeRead, left⟩ := VirtualFile.readWord_of_remaining typed
  obtain ⟨next, taken, _⟩ := VirtualFile.read_of_remaining left
  rw [hash.2] at taken
  have hashRead : readHash file = .ok (hash, next) := by
    unfold readHash
    split
    · rename_i bytes after found
      rw [taken] at found
      cases found
      rfl
    · rename_i exception found
      rw [taken] at found
      cases found
  simp [nextBlock, typeRead, hashRead]

theorem walk_written {blocks : List IndexBlock} {hash : Digest} (rest : List UInt8)
    (readable : ∀ block ∈ blocks, block.Readable enumContains) {fuel : Nat}
    (enough : blocks.length < fuel) {vFile : VirtualFile}
    (left : vFile.remaining = blocks.flatMap IndexBlock.written ++ HASH_BLOCK :: hash.1 ++ rest) :
    walk enumContains fuel vFile = (blocks, .hashBlock hash) := by
  induction blocks generalizing fuel vFile with
  | nil =>
      obtain ⟨fuel, rfl⟩ := Nat.exists_eq_succ_of_ne_zero (Nat.ne_of_gt enough)
      have inside := vFile.cursor_lt_of_remaining left
      simp [walk, inside, nextBlock_hash left]
  | cons block blocks ih =>
      obtain ⟨fuel, rfl⟩ := Nat.exists_eq_succ_of_ne_zero (Nat.ne_of_gt (Nat.zero_lt_of_lt enough))
      have first := readable block (List.mem_cons_self ..)
      simp only [List.flatMap_cons, List.append_assoc] at left
      have inside := vFile.cursor_lt_of_remaining left
      obtain ⟨next, found, nextLeft⟩ := nextBlock_written first left
      rw [← List.append_assoc] at nextLeft
      have walked := ih (fun other member => readable other (List.mem_cons_of_mem _ member))
        (Nat.lt_of_succ_lt_succ enough) nextLeft
      simp [walk, inside, found, first.not_corrupted, walked]

/-- A data block of an unknown type is not read. -/
theorem nextBlock_unknown {data : DataBlock} {vFile : VirtualFile} {rest : List UInt8}
    (unknown : enumContains data.transactionType = false)
    (left : vFile.remaining = (IndexBlock.dataBlock data).written ++ rest) :
    ∃ exception, nextBlock enumContains vFile = .throws exception := by
  have typed : vFile.remaining = LittleEndian.encode DATA_BLOCK ++ (data.body ++ rest) := left
  obtain ⟨file, typeRead, left⟩ := VirtualFile.readWord_of_remaining typed
  simp only [DataBlock.body, List.append_assoc] at left
  obtain ⟨file₁, read₁, left₁⟩ := VirtualFile.readWord_of_remaining left
  obtain ⟨file₂, read₂, left₂⟩ := VirtualFile.readWord_of_remaining left₁
  obtain ⟨file₃, read₃, left₃⟩ := VirtualFile.readWord_of_remaining left₂
  refine ⟨.gradidoUnknownEnum "invalid transaction type readed from block index"
    "gradido::data::TransactionType" (toString data.transactionType.toNat), ?_⟩
  simp [nextBlock, typeRead, readBlock, HASH_BLOCK, DATA_BLOCK, DataBlock.readFromFile, read₁,
    read₂, read₃, unknown, bind, Except.bind, throw, throwThe, MonadExceptOf.throw]

/-- The walk ends at a block that cannot be read. -/
theorem walk_unreadable {before : List IndexBlock} {block : IndexBlock} (rest : List UInt8)
    (readable : ∀ block ∈ before, block.Readable enumContains)
    (unreadable : ¬ block.Readable enumContains) {fuel : Nat} (enough : before.length < fuel)
    {vFile : VirtualFile}
    (left : vFile.remaining = before.flatMap IndexBlock.written ++ block.written ++ rest) :
    ∃ exception, (walk enumContains fuel vFile).2 = .rejected exception := by
  induction before generalizing fuel vFile with
  | nil =>
      obtain ⟨fuel, rfl⟩ := Nat.exists_eq_succ_of_ne_zero (Nat.ne_of_gt enough)
      have inside := vFile.cursor_lt_of_remaining left
      cases block with
      | yearBlock year => exact absurd trivial unreadable
      | monthBlock month => exact absurd trivial unreadable
      | dataBlock data =>
          by_cases known : enumContains data.transactionType = true
          · have negative : data.fileCursor < 0 := by
              by_contra nonnegative
              exact unreadable ⟨known, nonnegative⟩
            have typed : vFile.remaining =
              LittleEndian.encode DATA_BLOCK ++ (data.body ++ rest) := left
            obtain ⟨file, typeRead, behind⟩ := VirtualFile.readWord_of_remaining typed
            obtain ⟨next, bodyRead, _⟩ := DataBlock.readFromFile_body known behind
            have found : nextBlock enumContains vFile = .block (.dataBlock data) next := by
              simp [nextBlock, typeRead, readBlock, HASH_BLOCK, DATA_BLOCK, bodyRead, bind,
                Except.bind, pure, Except.pure]
            refine ⟨.runtimeError "corrupted index file?", ?_⟩
            simp [walk, inside, found, IndexBlock.corrupted, negative]
          · obtain ⟨exception, thrown⟩ := nextBlock_unknown (Bool.not_eq_true _ ▸ known) left
            refine ⟨exception, ?_⟩
            simp [walk, inside, thrown]
  | cons head before ih =>
      obtain ⟨fuel, rfl⟩ := Nat.exists_eq_succ_of_ne_zero (Nat.ne_of_gt (Nat.zero_lt_of_lt enough))
      have first := readable head (List.mem_cons_self ..)
      simp only [List.flatMap_cons, List.append_assoc] at left
      have inside := vFile.cursor_lt_of_remaining left
      obtain ⟨next, found, nextLeft⟩ := nextBlock_written first left
      rw [← List.append_assoc] at nextLeft
      obtain ⟨exception, walked⟩ := ih
        (fun other member => readable other (List.mem_cons_of_mem _ member))
        (Nat.lt_of_succ_lt_succ enough) nextLeft
      refine ⟨exception, ?_⟩
      simp [walk, inside, found, first.not_corrupted, walked]

theorem length_le_written (blocks : List IndexBlock) :
    blocks.length ≤ (blocks.flatMap IndexBlock.written).length := by
  induction blocks with
  | nil => exact Nat.zero_le _
  | cons block blocks ih =>
      simp only [List.flatMap_cons, List.length_append, List.length_cons, IndexBlock.written]
      omega

/-- A written file with an unreadable block is rejected. -/
theorem walkFile_fileContent_unreadable {blocks : List IndexBlock} {block : IndexBlock}
    (member : block ∈ blocks) (unreadable : ¬ block.Readable enumContains) :
    ∃ exception, (walkFile enumContains (fileContent genericHash blocks)).2 =
      .rejected exception := by
  have split (blocks : List IndexBlock) (member : block ∈ blocks) :
      ∃ before first after, blocks = before ++ first :: after ∧
        (∀ block ∈ before, block.Readable enumContains) ∧ ¬ first.Readable enumContains := by
    induction blocks with
    | nil => cases member
    | cons head rest ih =>
        by_cases readable : head.Readable enumContains
        · rcases List.mem_cons.mp member with rfl | inRest
          · exact absurd readable unreadable
          · obtain ⟨before, first, after, rfl, allBefore, bad⟩ := ih inRest
            refine ⟨head :: before, first, after, rfl, ?_, bad⟩
            exact List.forall_mem_cons.mpr ⟨readable, allBefore⟩
        · exact ⟨[], head, rest, rfl, nofun, readable⟩
  obtain ⟨before, first, after, rfl, allBefore, bad⟩ := split blocks member
  have shorter := length_le_written before
  have enough : before.length < (fileContent genericHash (before ++ first :: after)).length := by
    simp only [fileContent, List.length_append, List.flatMap_append, List.length_cons]
    omega
  refine walk_unreadable (after.flatMap IndexBlock.written ++ HASH_BLOCK ::
    (genericHash ((before ++ first :: after).flatMap IndexBlock.hashed)).1) allBefore bad enough ?_
  simp [VirtualFile.remaining_ofBuffer, fileContent]

/-- A written file is walked back to the blocks it was written from. -/
theorem walkFile_fileContent {blocks : List IndexBlock}
    (readable : ∀ block ∈ blocks, block.Readable enumContains) :
    walkFile enumContains (fileContent genericHash blocks) =
      (blocks, .hashBlock (genericHash (blocks.flatMap IndexBlock.hashed))) := by
  have shorter := length_le_written blocks
  have enough : blocks.length < (fileContent genericHash blocks).length := by
    simp only [fileContent, List.length_append, List.length_cons]
    omega
  refine walk_written [] readable enough ?_
  simp [VirtualFile.remaining_ofBuffer, fileContent]

end Written

end Files

end GradidoNode
