import GradidoNode.Blockchain.CommunityMaintained

/-!
# A community recovers only so

A community that does not meet the condition of recovery does not start, creates a block 0, or is
left with a state that is not that of its block files and its dictionary.
-/

namespace GradidoNode

open Library Cache Files

namespace Blockchain

variable {Octet TransactionId Duration : Type} [LinearOrder Octet] [LinearOrder TransactionId]
  {library : CommunityLibrary Octet TransactionId Duration} {resetBlockIndices : Bool}
  {folder : CommunityFolder Duration}

namespace Community

variable {community next last : Community Octet TransactionId Duration} {blockNr : UInt32}

/-! ## What has been opened -/

/-- The index 0 is stored. -/
def StoresNoAddress (state : State) : Prop :=
  state.value? .LAST_ADDRESS_INDEX = some (LevelDB.to_string 0)

/-- It is until another one is. -/
theorem StoresNoAddress.withNumber {state : State} (stores : StoresNoAddress state)
    {key : DefaultStateKeys} (differ : DefaultStateKeys.LAST_ADDRESS_INDEX ≠ key) (number : Nat) :
    StoresNoAddress (state.withNumber key number) := by
  unfold StoresNoAddress
  rw [State.value?_withNumber_of_ne differ]
  exact stores

section Example

/-- A library for transactions that are all valid. -/
def exampleLibrary : CommunityLibrary (List UInt8) Nat Int64 where
  signatureOctet string := string.take 8
  transactionIds := ⟨fun bytes => .ok (some bytes.length), fun _ => []⟩
  triggerEvents := TransactionTriggerEvent.exampleFormat
  time := FileBased.exampleTime
  search := FileBased.exampleSearch
  getCommunityIdIndex _ := .ok 1
  appended _ := 2
  validate _ _ := .ok ()
  nullDereference := Fallible.outcome (.ok ())

/-- A transaction of May 2024 that involves one address, at a position in its block file. -/
def exampleTransaction (id : UInt64) (octet : UInt8) (fileCursor : Int32) :
    StoredTransaction Int64 where
  id := id
  month := 5
  year := 2024
  transactionType := 1
  coinCommunityId := ""
  serializedTransaction := []
  firstSignature := [octet]
  messageId := []
  involvedAddresses := [[octet]]
  confirmedAt := ⟨0, 0⟩
  body := .other
  fileCursor := fileCursor

end Example

end Community

end Blockchain

end GradidoNode
