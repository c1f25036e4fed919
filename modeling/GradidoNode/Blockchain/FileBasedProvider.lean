import GradidoNode.Exceptions
import GradidoNode.Library.OrderedMap

/-!
# The provider of blockchains

The provider keeps one blockchain for each community. `init` and `reloadConfig` go through the
communities of the configuration and add those that are missing. Files, stores and the
dictionary of community ids are a world of their own, on which the calls of other classes act.
-/

namespace GradidoNode

open Library

namespace Blockchain

/-- A `FileBased` in the map of the provider. -/
structure MemberBlockchain where
  /-- Its `init` has returned true. -/
  initialised : Bool
  /-- The task of its `initOnline` was given to the scheduler. -/
  scheduled : Bool
  deriving DecidableEq

/-- What the calls for one community do to the world. -/
structure CommunityCalls (World : Type) where
  /-- `hiero::TopicId(details.topicId)`. -/
  topicId : Except Exception Unit
  /-- `getFolder`, `FileBased::create` and the listener of the community. -/
  create : Throwing World Unit
  /-- `FileBased::init(resetBlockIndices)`. -/
  init : Bool → Throwing World Bool
  getOrAddIndexForString : Throwing World UInt32
  updateListenerCommunity : Throwing World Unit
  /-- `initOnline`, `pickHieroClient`, `getTopicInfo` and `scheduleTask`. -/
  initOnline : Throwing World Unit

/-- What one call of the provider meets. -/
structure ProviderCalls (CommunityId World : Type) where
  /-- `mGroupIndex->update()` and `listCommunitiesIds()`. -/
  communitiesIds : Except Exception (List CommunityId)
  communities : CommunityId → CommunityCalls World

/-- What `init` meets besides. -/
structure InitCalls (CommunityId World : Type) extends ProviderCalls CommunityId World where
  hieroClients : Nat
  hieroClientsPerCommunity : UInt8
  communityIdIndexInit : Throwing World Bool
  communityIdIndexReset : Throwing World Unit

structure FileBasedProvider (CommunityId World : Type) [LinearOrder CommunityId] where
  initalized : Bool
  /-- Whether `mGroupIndex` points to an index. -/
  groupIndex : Bool
  blockchainsPerGroup : OrderedMap CommunityId MemberBlockchain
  world : World
  /-- Whether the last `FileBased::init` of a community has returned true. -/
  lastInit : CommunityId → Bool

namespace FileBasedProvider

variable {CommunityId World Value : Type} [LinearOrder CommunityId]

/-- The provider after its constructor. -/
def new (world : World) : FileBasedProvider CommunityId World where
  initalized := false
  groupIndex := false
  blockchainsPerGroup := ∅
  world := world
  lastInit := fun _ => false

def onWorld (operation : Throwing World Value) :
    Throwing (FileBasedProvider CommunityId World) Value :=
  Fallible.onPart world (fun provider world => { provider with world := world }) operation

/-- A step of the provider itself, which cannot fail. -/
def modify (change : FileBasedProvider CommunityId World → FileBasedProvider CommunityId World) :
    Throwing (FileBasedProvider CommunityId World) Unit :=
  fun provider => (.ok (), change provider)

/-- `mBlockchainsPerGroup.insert`, which does nothing where the community is there already. -/
def insertBlockchain (communityId : CommunityId) (provider : FileBasedProvider CommunityId World) :
    FileBasedProvider CommunityId World :=
  { provider with
    blockchainsPerGroup :=
      provider.blockchainsPerGroup.insertNew communityId { initialised := false, scheduled := false } }

/-- `FileBased::init` has returned true; the blockchain it was called on is the one in the map
where it was inserted. -/
def initSucceeded (communityId : CommunityId) (inserted : Bool)
    (provider : FileBasedProvider CommunityId World) : FileBasedProvider CommunityId World :=
  { provider with
    blockchainsPerGroup :=
      if inserted then
        provider.blockchainsPerGroup.set communityId { initialised := true, scheduled := false }
      else provider.blockchainsPerGroup
    lastInit := Function.update provider.lastInit communityId true }

/-- `FileBased::init` has returned false. -/
def initFailed (communityId : CommunityId) (provider : FileBasedProvider CommunityId World) :
    FileBasedProvider CommunityId World :=
  { provider with
    blockchainsPerGroup := provider.blockchainsPerGroup.erase communityId
    lastInit := Function.update provider.lastInit communityId false }

/-- `FileBased::init` has thrown. -/
def initThrew (communityId : CommunityId) (provider : FileBasedProvider CommunityId World) :
    FileBasedProvider CommunityId World :=
  { provider with lastInit := Function.update provider.lastInit communityId false }

/-- `blockchain->init` on the blockchain just created, and what follows in `addCommunity`. -/
def initBlockchain (calls : CommunityCalls World) (communityId : CommunityId) (inserted : Bool) :
    Throwing (FileBasedProvider CommunityId World) Bool := fun provider =>
  match onWorld (calls.init false) provider with
  | (.ok true, provider) =>
      (onWorld calls.getOrAddIndexForString).andThen (fun _ => Fallible.outcome (.ok true))
        (provider.initSucceeded communityId inserted)
  | (.ok false, provider) => (.ok false, provider.initFailed communityId)
  | (.error exception, provider) => (.error exception, provider.initThrew communityId)

/-- The body of the `try` of `addCommunity`. -/
def tryAddCommunity (calls : CommunityCalls World) (communityId : CommunityId) :
    Throwing (FileBasedProvider CommunityId World) Bool :=
  (onWorld calls.create).andThen fun _ provider =>
    initBlockchain calls communityId (!provider.blockchainsPerGroup.contains communityId)
      (provider.insertBlockchain communityId)

/-- `addCommunity`; false is the null pointer. The argument `resetIndices` is not used. -/
def addCommunity (calls : CommunityCalls World) (communityId : CommunityId)
    (_resetIndices : Bool) : Throwing (FileBasedProvider CommunityId World) Bool := fun provider =>
  match tryAddCommunity calls communityId provider with
  | (.ok added, provider) => (.ok added, provider)
  | (.error exception, provider) =>
      if exception.isGradidoBlockchainException then (.ok false, provider)
      else (.error exception, provider)

/-- Step 1 of `init`. -/
def addCommunities (communities : CommunityId → CommunityCalls World)
    (resetAllCommunityIndices : Bool) :
    List CommunityId → Throwing (FileBasedProvider CommunityId World) Bool
  | [] => Fallible.outcome (.ok true)
  | communityId :: rest =>
      (Fallible.outcome (communities communityId).topicId).andThen fun _ =>
        (addCommunity (communities communityId) communityId resetAllCommunityIndices).andThen
          fun added =>
            if added then addCommunities communities resetAllCommunityIndices rest
            else Fallible.outcome (.ok false)

def markScheduled (communityId : CommunityId) (provider : FileBasedProvider CommunityId World) :
    FileBasedProvider CommunityId World :=
  { provider with
    blockchainsPerGroup := provider.blockchainsPerGroup.alter communityId fun present =>
      { initialised := (present.map MemberBlockchain.initialised).getD false, scheduled := true } }

/-- Step 2 of `init`, for one blockchain of the map. -/
def scheduleInitOnline (communities : CommunityId → CommunityCalls World)
    (communityId : CommunityId) : Throwing (FileBasedProvider CommunityId World) Unit :=
  (onWorld (communities communityId).initOnline).andThen fun _ =>
    modify (markScheduled communityId)

/-- Steps 1 and 2 of `init`. -/
def loadCommunities (communities : CommunityId → CommunityCalls World)
    (resetAllCommunityIndices : Bool) (communitiesIds : List CommunityId) :
    Throwing (FileBasedProvider CommunityId World) Bool :=
  (addCommunities communities resetAllCommunityIndices communitiesIds).andThen fun added provider =>
    if added then
      ((Fallible.forEach (scheduleInitOnline communities) provider.blockchainsPerGroup.keys).andThen
        fun _ => Fallible.outcome (.ok true)) provider
    else (.ok false, provider)

/-- Open the dictionary of community ids; the result is `resetAllCommunityIndices`. -/
def openCommunityIdIndex (calls : InitCalls CommunityId World) :
    Throwing (FileBasedProvider CommunityId World) Bool :=
  (onWorld calls.communityIdIndexInit).andThen fun opened =>
    if opened then Fallible.outcome (.ok false)
    else (onWorld calls.communityIdIndexReset).andThen fun _ => Fallible.outcome (.ok true)

def init (calls : InitCalls CommunityId World) :
    Throwing (FileBasedProvider CommunityId World) Bool :=
  (modify fun provider => { provider with initalized := true }).andThen fun _ =>
    if calls.hieroClients < calls.hieroClientsPerCommunity.toNat then Fallible.outcome (.ok false)
    else
      (openCommunityIdIndex calls).andThen fun resetAllCommunityIndices =>
        (modify fun provider => { provider with groupIndex := true }).andThen fun _ =>
          (Fallible.outcome calls.communitiesIds).andThen
            (loadCommunities calls.communities resetAllCommunityIndices)

/-- One community of the configuration in `reloadConfig`. -/
def reloadCommunity (communities : CommunityId → CommunityCalls World)
    (communityId : CommunityId) (addedBlockchainsCount : Nat) :
    Throwing (FileBasedProvider CommunityId World) Nat := fun provider =>
  if provider.blockchainsPerGroup.contains communityId then
    (onWorld (communities communityId).updateListenerCommunity).andThen
      (fun _ => Fallible.outcome (.ok addedBlockchainsCount)) provider
  else
    (Fallible.outcome (communities communityId).topicId).andThen (fun _ =>
      (addCommunity (communities communityId) communityId false).andThen fun added =>
        Fallible.outcome (.ok (if added then addedBlockchainsCount + 1 else addedBlockchainsCount)))
      provider

def reloadCommunities (communities : CommunityId → CommunityCalls World) :
    List CommunityId → Nat → Throwing (FileBasedProvider CommunityId World) Nat
  | [], addedBlockchainsCount => Fallible.outcome (.ok addedBlockchainsCount)
  | communityId :: rest, addedBlockchainsCount =>
      (reloadCommunity communities communityId addedBlockchainsCount).andThen
        (reloadCommunities communities rest)

/-- `reloadConfig`; `none` where a null pointer is dereferenced. -/
def reloadConfig (calls : ProviderCalls CommunityId World)
    (provider : FileBasedProvider CommunityId World) :
    Option (Except Exception Nat × FileBasedProvider CommunityId World) :=
  if !provider.initalized then
    some (.error (.classNotInitalized "please call init before" "blockchain::FileBasedProvider"),
      provider)
  else if !provider.groupIndex then none
  else some ((Fallible.outcome calls.communitiesIds).andThen
    (fun communitiesIds => reloadCommunities calls.communities communitiesIds 0) provider)

end FileBasedProvider

end Blockchain

end GradidoNode
