import GradidoNode.Lib.VirtualFile

/-!
# Block index files

The file `blkNNNNNNNN.index`: year, month and data blocks one after the other,
closed by a hash block. Reading delivers every data block to a receiver while the
hash is still being accumulated, and compares the hash last.
-/

namespace GradidoNode

open Library

/-- `crypto_generichash_BYTES` bytes. -/
abbrev Digest := { bytes : List UInt8 // bytes.length = 32 }

/-- The arguments of `IBlockIndexReceiver::addIndicesForTransaction`. -/
structure TransactionIndices where
  transactionType : UInt8
  coinCommunityIdIndex : UInt32
  year : Int16
  month : UInt8
  transactionNr : UInt64
  fileCursor : Int32
  addressIndices : List UInt32
  addressIndiceCount : UInt16
  deriving DecidableEq, Repr

/-- `IBlockIndexReceiver`. -/
abbrev BlockIndexReceiver (State : Type) := TransactionIndices → Throwing State Unit

namespace Files

/-- The member `addressIndicesCount` is one byte, so no data block holds more
than 255 address indices. -/
structure DataBlock where
  transactionNr : UInt64
  fileCursor : Int32
  transactionType : UInt8
  coinCommunityIdIndex : UInt32
  addressIndices : List UInt32
  addressIndices_lt : addressIndices.length < 256
  deriving DecidableEq

inductive IndexBlock
  | yearBlock (year : Int16)
  | monthBlock (month : UInt8)
  | dataBlock (block : DataBlock)
  deriving DecidableEq

namespace BlockTypes

def YEAR_BLOCK : UInt8 := 0xad
def MONTH_BLOCK : UInt8 := 0x50
def DATA_BLOCK : UInt8 := 0xdd
def HASH_BLOCK : UInt8 := 0x17

end BlockTypes

open BlockTypes

namespace DataBlock

def addressIndicesCount (block : DataBlock) : UInt8 := UInt8.ofNat block.addressIndices.length

theorem toNat_addressIndicesCount (block : DataBlock) :
    block.addressIndicesCount.toNat = block.addressIndices.length :=
  Nat.mod_eq_of_lt block.addressIndices_lt

/-- The constructor from a vector keeps as many indices as the one-byte count
of the vector's size says. -/
def ofVector (transactionNr : UInt64) (fileCursor : Int32) (transactionType : UInt8)
    (coinCommunityIdIndex : UInt32) (addressIndices : List UInt32) : DataBlock where
  transactionNr := transactionNr
  fileCursor := fileCursor
  transactionType := transactionType
  coinCommunityIdIndex := coinCommunityIdIndex
  addressIndices := addressIndices.take (UInt8.ofNat addressIndices.length).toNat
  addressIndices_lt := by
    have bounded := (UInt8.ofNat addressIndices.length).toNat_lt
    rw [List.length_take]
    omega

/-- `DataBlock::writeIntoFile` behind the block type. -/
def body (block : DataBlock) : List UInt8 :=
  LittleEndian.encode block.transactionNr ++
  (LittleEndian.encode block.fileCursor ++
  (LittleEndian.encode block.transactionType ++
  (LittleEndian.encode block.coinCommunityIdIndex ++
  (LittleEndian.encode block.addressIndicesCount ++
  LittleEndian.encodeArray block.addressIndices))))

/-- `DataBlock::updateHash`; the transaction type does not enter the hash. -/
def hashed (block : DataBlock) : List UInt8 :=
  [DATA_BLOCK] ++ LittleEndian.encode block.transactionNr ++
  LittleEndian.encode block.fileCursor ++
  LittleEndian.encode block.coinCommunityIdIndex ++
  LittleEndian.encode block.addressIndicesCount ++
  LittleEndian.encodeArray block.addressIndices

end DataBlock

/-- `addressIndices` is a buffer of `count` words cut out of the file. -/
theorem length_readArray (count : UInt8) (bytes : List UInt8) :
    (LittleEndian.decodeArray UInt32 count.toNat bytes).length < 256 := by
  rw [LittleEndian.length_decodeArray]
  exact count.toNat_lt

/-- `DataBlock::readFromFile`, with the enum check between the fields. -/
def DataBlock.readFromFile (enumContains : UInt8 → Bool) (vFile : VirtualFile) :
    Except Exception (DataBlock × VirtualFile) := do
  let (transactionNr, vFile) ← vFile.readWord UInt64
  let (fileCursor, vFile) ← vFile.readWord Int32
  let (transactionType, vFile) ← vFile.readWord UInt8
  if !enumContains transactionType then
    throw (.gradidoUnknownEnum "invalid transaction type readed from block index"
      "gradido::data::TransactionType" (toString transactionType.toNat))
  let (coinCommunityIdIndex, vFile) ← vFile.readWord UInt32
  let (addressIndicesCount, vFile) ← vFile.readWord UInt8
  let (bytes, vFile) ← vFile.read (4 * addressIndicesCount.toNat)
  return ({
    transactionNr := transactionNr
    fileCursor := fileCursor
    transactionType := transactionType
    coinCommunityIdIndex := coinCommunityIdIndex
    addressIndices := LittleEndian.decodeArray UInt32 addressIndicesCount.toNat bytes
    addressIndices_lt := length_readArray addressIndicesCount bytes }, vFile)

namespace IndexBlock

def type : IndexBlock → UInt8
  | yearBlock _ => YEAR_BLOCK
  | monthBlock _ => MONTH_BLOCK
  | dataBlock _ => DATA_BLOCK

def body : IndexBlock → List UInt8
  | yearBlock year => LittleEndian.encode year
  | monthBlock month => LittleEndian.encode month
  | dataBlock block => block.body

/-- `Block::writeIntoFile`. -/
def written (block : IndexBlock) : List UInt8 := block.type :: block.body

/-- `Block::updateHash`. -/
def hashed : IndexBlock → List UInt8
  | yearBlock year => YEAR_BLOCK :: LittleEndian.encode year
  | monthBlock month => MONTH_BLOCK :: LittleEndian.encode month
  | dataBlock block => block.hashed

end IndexBlock

/-- The blocks `readFromFile` creates in its switch, read from behind the type.
Any other type leaves `block` at `nullptr`. -/
def readBlock (enumContains : UInt8 → Bool) (blockType : UInt8) (vFile : VirtualFile) :
    Option (Except Exception (IndexBlock × VirtualFile)) :=
  if blockType = DATA_BLOCK then
    some (do
      let (block, vFile) ← DataBlock.readFromFile enumContains vFile
      return (.dataBlock block, vFile))
  else if blockType = MONTH_BLOCK then
    some (do
      let (month, vFile) ← vFile.readWord UInt8
      return (.monthBlock month, vFile))
  else if blockType = YEAR_BLOCK then
    some (do
      let (year, vFile) ← vFile.readWord Int16
      return (.yearBlock year, vFile))
  else none

/-- Read the bytes of `hashFromFile`. -/
def readHash (vFile : VirtualFile) : Except Exception (Digest × VirtualFile) :=
  match taken : vFile.read 32 with
  | .ok (bytes, next) => .ok (⟨bytes, VirtualFile.length_of_read taken⟩, next)
  | .error exception => .error exception

/-- What one round of `readFromFile` finds behind the cursor. -/
inductive NextBlock
  | block (block : IndexBlock) (vFile : VirtualFile)
  | hash (hashFromFile : Digest)
  /-- An unknown block type, handled like the end of the file. -/
  | nullptr
  | throws (exception : Exception)

/-- Read the block type, then the block or the hash. -/
def nextBlock (enumContains : UInt8 → Bool) (vFile : VirtualFile) : NextBlock :=
  match vFile.readWord UInt8 with
  | .error exception => .throws exception
  | .ok (blockType, vFile) =>
      if blockType = HASH_BLOCK then
        match readHash vFile with
        | .ok (hash, _) => .hash hash
        | .error exception => .throws exception
      else
        match readBlock enumContains blockType vFile with
        | none => .nullptr
        | some (.error exception) => .throws exception
        | some (.ok (block, vFile)) => .block block vFile

/-- The data block as handed to the receiver. -/
def DataBlock.indices (block : DataBlock) (year : Int16) (month : UInt8) :
    TransactionIndices where
  transactionType := block.transactionType
  coinCommunityIdIndex := block.coinCommunityIdIndex
  year := year
  month := month
  transactionNr := block.transactionNr
  fileCursor := block.fileCursor
  addressIndices := block.addressIndices
  addressIndiceCount := block.addressIndicesCount.toUInt16

/-- The locals of `readFromFile` together with the receiver. -/
structure ReadState (Receiver : Type) where
  vFile : VirtualFile
  /-- The bytes `crypto_generichash_update` has been fed so far. -/
  state : List UInt8
  hashFromFile : Digest
  yearCursor : Int16
  monthCursor : UInt8
  receiver : Receiver

variable {Receiver : Type}

/-- What the loop does with a block it has read. `debugFileCursor` is 0 again in
every round, so only a negative cursor counts as corrupted. -/
def receiveBlock (receive : BlockIndexReceiver Receiver) (block : IndexBlock)
    (locals : ReadState Receiver) : Except Exception (ReadState Receiver) × Receiver :=
  match block with
  | .yearBlock year => (.ok { locals with yearCursor := year }, locals.receiver)
  | .monthBlock month => (.ok { locals with monthCursor := month }, locals.receiver)
  | .dataBlock data =>
      if data.fileCursor < 0 then
        (.error (.runtimeError "corrupted index file?"), locals.receiver)
      else
        match receive (data.indices locals.yearCursor locals.monthCursor) locals.receiver with
        | (.ok (), receiver) => (.ok { locals with receiver := receiver }, receiver)
        | (.error exception, receiver) => (.error exception, receiver)

/-- The loop of `readFromFile`. Every round reads at least the block type, so the
size of the file is fuel enough. -/
def readLoop (enumContains : UInt8 → Bool) (receive : BlockIndexReceiver Receiver) :
    Nat → ReadState Receiver → Except Exception (List UInt8 × Digest) × Receiver
  | 0, locals => (.ok (locals.state, locals.hashFromFile), locals.receiver)
  | fuel + 1, locals =>
      if locals.vFile.cursor < locals.vFile.getSize then
        match nextBlock enumContains locals.vFile with
        | .block block vFile =>
            match receiveBlock receive block
                { locals with vFile := vFile, state := locals.state ++ block.hashed } with
            | (.ok next, _) => readLoop enumContains receive fuel next
            | (.error exception, receiver) => (.error exception, receiver)
        | .hash hash => (.ok (locals.state, hash), locals.receiver)
        | .nullptr => (.ok (locals.state, locals.hashFromFile), locals.receiver)
        | .throws exception => (.error exception, locals.receiver)
      else (.ok (locals.state, locals.hashFromFile), locals.receiver)

/-- `BlockIndex::readFromFile` on the content of the file. `uninitialised` is what
the stack array `hashFromFile` holds before a hash block fills it. -/
def readFromFile (genericHash : List UInt8 → Digest) (enumContains : UInt8 → Bool)
    (uninitialised : Digest) (receive : BlockIndexReceiver Receiver) (content : List UInt8) :
    Throwing Receiver Bool := fun receiver =>
  if content.isEmpty then (.ok false, receiver)
  else
    let locals : ReadState Receiver := {
      vFile := VirtualFile.ofBuffer content
      state := []
      hashFromFile := uninitialised
      yearCursor := 0
      monthCursor := 0
      receiver := receiver }
    match readLoop enumContains receive content.length locals with
    | (.error exception, receiver) => (.error exception, receiver)
    | (.ok (state, hashFromFile), receiver) =>
        if hashFromFile = genericHash state then (.ok true, receiver)
        else (.error (.hashMismatch "block index file hash mismatch" hashFromFile.1
          (genericHash state).1), receiver)

/-- `BlockIndex::writeToFile`: the blocks, then the hash block. -/
def fileContent (genericHash : List UInt8 → Digest) (blocks : List IndexBlock) : List UInt8 :=
  blocks.flatMap IndexBlock.written ++
    HASH_BLOCK :: (genericHash (blocks.flatMap IndexBlock.hashed)).1

end Files

end GradidoNode
