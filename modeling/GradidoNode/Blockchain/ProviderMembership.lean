import GradidoNode.Blockchain.FileBasedProvider
import GradidoNode.Library.Run

/-!
# Who is in the map of the provider

What a whole sequence of `init` and `reloadConfig` leaves in the map. The answers of
`FileBased::init` and of all other calls are arbitrary.
-/

namespace GradidoNode

open Library

namespace Blockchain

namespace FileBasedProvider

variable {CommunityId : Type} [LinearOrder CommunityId]

/-- What the calls for one community answer during one call of the provider. -/
structure CommunityAnswers where
  topicId : Except Exception Unit
  create : Except Exception Unit
  init : Except Exception Bool
  getOrAddIndexForString : Except Exception UInt32
  updateListenerCommunity : Except Exception Unit
  initOnline : Except Exception Unit

def CommunityAnswers.calls (answers : CommunityAnswers) : CommunityCalls Unit where
  topicId := answers.topicId
  create := Fallible.outcome answers.create
  init := fun _ => Fallible.outcome answers.init
  getOrAddIndexForString := Fallible.outcome answers.getOrAddIndexForString
  updateListenerCommunity := Fallible.outcome answers.updateListenerCommunity
  initOnline := Fallible.outcome answers.initOnline

/-- The configuration as read by one call, and the answers during the call. -/
structure Configuration (CommunityId : Type) where
  communitiesIds : Except Exception (List CommunityId)
  answers : CommunityId → CommunityAnswers

def Configuration.calls (configuration : Configuration CommunityId) :
    ProviderCalls CommunityId Unit where
  communitiesIds := configuration.communitiesIds
  communities := fun communityId => (configuration.answers communityId).calls

/-- The arguments of `init`, and what opening the dictionary of community ids answers. -/
structure InitAnswers where
  hieroClients : Nat
  hieroClientsPerCommunity : UInt8
  communityIdIndexInit : Except Exception Bool
  communityIdIndexReset : Except Exception Unit

def InitAnswers.calls (answers : InitAnswers) (configuration : Configuration CommunityId) :
    InitCalls CommunityId Unit where
  toProviderCalls := configuration.calls
  hieroClients := answers.hieroClients
  hieroClientsPerCommunity := answers.hieroClientsPerCommunity
  communityIdIndexInit := Fallible.outcome answers.communityIdIndexInit
  communityIdIndexReset := Fallible.outcome answers.communityIdIndexReset

/-- The provider, and whether the last call of it has succeeded. -/
structure Session (CommunityId : Type) [LinearOrder CommunityId] where
  provider : FileBasedProvider CommunityId Unit
  succeeded : Bool

inductive ProviderEvent (CommunityId : Type)
  | init (answers : InitAnswers) (configuration : Configuration CommunityId)
  | reloadConfig (configuration : Configuration CommunityId)

namespace Session

/-- `init` succeeds where it returns true. -/
def afterInit : Except Exception Bool × FileBasedProvider CommunityId Unit → Session CommunityId
  | (.ok succeeded, provider) => { provider := provider, succeeded := succeeded }
  | (.error _, provider) => { provider := provider, succeeded := false }

/-- `reloadConfig` succeeds where it returns. -/
def afterReload : Except Exception Nat × FileBasedProvider CommunityId Unit → Session CommunityId
  | (.ok _, provider) => { provider := provider, succeeded := true }
  | (.error _, provider) => { provider := provider, succeeded := false }

def step (session : Session CommunityId) : ProviderEvent CommunityId → Option (Session CommunityId)
  | .init answers configuration =>
      some (afterInit (FileBasedProvider.init (answers.calls configuration) session.provider))
  | .reloadConfig configuration =>
      (FileBasedProvider.reloadConfig configuration.calls session.provider).map afterReload

def start : Session CommunityId where
  provider := FileBasedProvider.new ()
  succeeded := false

end Session

/-- The map holds exactly the communities whose `FileBased::init` has succeeded; each blockchain
in it was initialised itself, and its task was scheduled. -/
structure MembershipRight (provider : FileBasedProvider CommunityId Unit) : Prop where
  members : ∀ communityId, provider.blockchainsPerGroup.contains communityId = true ↔
    provider.lastInit communityId = true
  following : ∀ communityId blockchain,
    provider.blockchainsPerGroup.find? communityId = some blockchain →
      blockchain.initialised = true ∧ blockchain.scheduled = true

/-- What the provider knows about a community: its blockchain, if any, and whether its last
`FileBased::init` has returned true. -/
def standing {World : Type} (provider : FileBasedProvider CommunityId World)
    (communityId : CommunityId) : Option MemberBlockchain × Bool :=
  (provider.blockchainsPerGroup.find? communityId, provider.lastInit communityId)

/-- What `addCommunity` makes of the standing of its community. -/
def CommunityAnswers.afterAdd (answers : CommunityAnswers) (before : Option MemberBlockchain × Bool) :
    Option MemberBlockchain × Bool :=
  match answers.create with
  | .error _ => before
  | .ok _ =>
      match answers.init with
      | .ok true => (some (before.1.getD { initialised := true, scheduled := false }), true)
      | .ok false => (none, false)
      | .error _ => (some (before.1.getD { initialised := false, scheduled := false }), false)

section Standing

variable {World Value : Type} {provider : FileBasedProvider CommunityId World}

/-- What a call does to the world outside leaves the communities alone. -/
theorem keeps_onWorld (operation : Throwing World Value) :
    Fallible.Keeps (standing : FileBasedProvider CommunityId World → _) (onWorld operation) :=
  fun _ => rfl

/-- A community is in the map if it has a blockchain. -/
theorem contains_eq_isSome (communityId : CommunityId) :
    provider.blockchainsPerGroup.contains communityId = (provider.standing communityId).1.isSome :=
  rfl

/-- A blockchain is inserted under a key that is free, and kept under one that is not. -/
theorem standing_insertBlockchain (added communityId : CommunityId) :
    (provider.insertBlockchain added).standing communityId =
      if communityId = added then
        (some ((provider.standing added).1.getD { initialised := false, scheduled := false }),
          (provider.standing added).2)
      else provider.standing communityId := by
  unfold standing insertBlockchain
  split
  · rename_i same
    subst same
    exact Prod.ext (OrderedMap.find?_alter_self _ _ _) rfl
  · rename_i differ
    exact Prod.ext (OrderedMap.find?_alter_of_ne _ differ _) rfl

/-- A blockchain that was initialised stands, if it was inserted before. -/
theorem standing_initSucceeded (added communityId : CommunityId) (inserted : Bool) :
    (provider.initSucceeded added inserted).standing communityId =
      if communityId = added then
        (if inserted then some { initialised := true, scheduled := false }
          else (provider.standing added).1, true)
      else provider.standing communityId := by
  by_cases same : communityId = added
  · subst same
    rw [if_pos rfl]
    cases inserted with
    | true => exact Prod.ext (OrderedMap.find?_alter_self _ _ _) (Function.update_self ..)
    | false => exact Prod.ext rfl (Function.update_self ..)
  · rw [if_neg same]
    cases inserted with
    | true =>
        exact Prod.ext (OrderedMap.find?_alter_of_ne _ same _) (Function.update_of_ne same ..)
    | false => exact Prod.ext rfl (Function.update_of_ne same ..)

/-- One whose initialisation failed is taken out. -/
theorem standing_initFailed (added communityId : CommunityId) :
    (provider.initFailed added).standing communityId =
      if communityId = added then (none, false) else provider.standing communityId := by
  unfold standing initFailed
  split
  · rename_i same
    subst same
    exact Prod.ext (OrderedMap.find?_erase_self _ _) (Function.update_self ..)
  · rename_i differ
    exact Prod.ext (OrderedMap.find?_erase_of_ne _ differ) (Function.update_of_ne differ ..)

/-- One whose initialisation threw stays where it is. -/
theorem standing_initThrew (added communityId : CommunityId) :
    (provider.initThrew added).standing communityId =
      if communityId = added then ((provider.standing added).1, false)
      else provider.standing communityId := by
  unfold standing initThrew
  split
  · rename_i same
    subst same
    exact Prod.ext rfl (Function.update_self ..)
  · rename_i differ
    exact Prod.ext rfl (Function.update_of_ne differ ..)

/-- Scheduling a community marks it and leaves the others. -/
theorem standing_markScheduled (scheduled communityId : CommunityId) :
    (provider.markScheduled scheduled).standing communityId =
      if communityId = scheduled then
        (some { initialised :=
            ((provider.standing scheduled).1.map MemberBlockchain.initialised).getD false
                scheduled := true }, (provider.standing scheduled).2)
      else provider.standing communityId := by
  unfold standing markScheduled
  split
  · rename_i same
    subst same
    exact Prod.ext (OrderedMap.find?_alter_self _ _ _) rfl
  · rename_i differ
    exact Prod.ext (OrderedMap.find?_alter_of_ne _ differ _) rfl

/-- The three outcomes of an initialisation, for one community. -/
theorem standing_initBlockchain (answers : CommunityAnswers) (added communityId : CommunityId)
    (inserted : Bool) (provider : FileBasedProvider CommunityId Unit) :
    (initBlockchain answers.calls added inserted provider).2.standing communityId =
      match answers.init with
      | .ok true => (provider.initSucceeded added inserted).standing communityId
      | .ok false => (provider.initFailed added).standing communityId
      | .error _ => (provider.initThrew added).standing communityId := by
  unfold initBlockchain CommunityAnswers.calls
  cases answered : answers.init with
  | error exception => rfl
  | ok succeeded =>
      cases succeeded with
      | false => rfl
      | true => cases answers.getOrAddIndexForString <;> rfl

/-- Adding a community touches no other. -/
theorem standing_tryAddCommunity (answers : CommunityAnswers) (added communityId : CommunityId)
    (provider : FileBasedProvider CommunityId Unit) :
    (tryAddCommunity answers.calls added provider).2.standing communityId =
      if communityId = added then answers.afterAdd (provider.standing added)
      else provider.standing communityId := by
  unfold CommunityAnswers.afterAdd
  cases created : answers.create with
  | error exception =>
      have failed : tryAddCommunity answers.calls added provider = (.error exception, provider) := by
        apply Fallible.andThen_of_error
        simp only [CommunityAnswers.calls, created]
        rfl
      rw [failed]
      split
      · rename_i same
        rw [same]
      · rfl
  | ok _ =>
      have goesOn : tryAddCommunity answers.calls added provider =
          initBlockchain answers.calls added (!provider.blockchainsPerGroup.contains added)
            (provider.insertBlockchain added) := by
        have answered : onWorld answers.calls.create provider = (.ok (), provider) := by
          simp only [CommunityAnswers.calls, created]
          rfl
        exact Fallible.andThen_of_ok answered
      rw [goesOn, standing_initBlockchain]
      by_cases same : communityId = added
      · subst same
        simp only [standing_initSucceeded, standing_initFailed, standing_initThrew,
          standing_insertBlockchain, contains_eq_isSome, ↓reduceIte]
        cases (provider.standing communityId).1 <;> rfl
      · simp only [standing_initSucceeded, standing_initFailed, standing_initThrew,
          standing_insertBlockchain, if_neg same]
        cases answers.init with
        | error exception => rfl
        | ok succeeded => cases succeeded <;> rfl

/-- `addCommunity` changes the standing of its own community only. -/
theorem standing_addCommunity (answers : CommunityAnswers) (added communityId : CommunityId)
    (resetIndices : Bool) (provider : FileBasedProvider CommunityId Unit) :
    (addCommunity answers.calls added resetIndices provider).2.standing communityId =
      if communityId = added then answers.afterAdd (provider.standing added)
      else provider.standing communityId := by
  rw [← standing_tryAddCommunity]
  unfold addCommunity
  split
  · rename_i same
    rw [same]
  · rename_i same
    rw [same]
    split <;> rfl

end Standing

/-- What `addCommunity` answers the blockchain for. -/
theorem answers_of_added {answers : CommunityAnswers} {added : CommunityId} {resetIndices : Bool}
    {provider next : FileBasedProvider CommunityId Unit}
    (success : addCommunity answers.calls added resetIndices provider = (.ok true, next)) :
    answers.create = .ok () ∧ answers.init = .ok true := by
  unfold addCommunity at success
  cases created : answers.create with
  | error exception =>
      have failed : tryAddCommunity answers.calls added provider = (.error exception, provider) := by
        apply Fallible.andThen_of_error
        simp only [CommunityAnswers.calls, created]
        rfl
      rw [failed] at success
      dsimp only at success
      split at success <;> simp at success
  | ok _ =>
      refine ⟨rfl, ?_⟩
      rcases tried : tryAddCommunity answers.calls added provider with ⟨exception | value, after⟩
      · rw [tried] at success
        dsimp only at success
        split at success <;> simp at success
      · rw [tried] at success
        obtain ⟨⟩ : value = true := by simpa using congrArg Prod.fst success
        obtain ⟨_, middle, -, inited⟩ := Fallible.andThen_ok_iff.mp tried
        unfold initBlockchain CommunityAnswers.calls at inited
        cases answered : answers.init with
        | error exception =>
            rw [answered] at inited
            exact absurd (congrArg Prod.fst inited) nofun
        | ok succeeded =>
            cases succeeded with
            | true => rfl
            | false =>
                rw [answered] at inited
                exact absurd (congrArg Prod.fst inited) (by simp [onWorld, Fallible.onPart,
                  Fallible.outcome])

/-- Step 1 of `init`, where it goes through. -/
theorem standing_addCommunities {answers : CommunityId → CommunityAnswers} {resetIndices : Bool}
    {communitiesIds : List CommunityId} {provider next : FileBasedProvider CommunityId Unit}
    (success : addCommunities (fun communityId => (answers communityId).calls) resetIndices
      communitiesIds provider = (.ok true, next)) (communityId : CommunityId) :
    next.standing communityId =
      if communityId ∈ communitiesIds then
        (some ((provider.standing communityId).1.getD { initialised := true, scheduled := false }),
          true)
      else provider.standing communityId := by
  induction communitiesIds generalizing provider with
  | nil =>
      cases success
      simp
  | cons added rest ih =>
      obtain ⟨_, _, topic, success⟩ := Fallible.andThen_ok_iff.mp success
      obtain ⟨-, rfl⟩ := Prod.mk.inj topic
      obtain ⟨wasAdded, middle, adding, success⟩ := Fallible.andThen_ok_iff.mp success
      cases wasAdded with
      | false => exact absurd (congrArg Prod.fst success) (by simp [Fallible.outcome])
      | true =>
          obtain ⟨created, inited⟩ := answers_of_added adding
          have standingAdded := standing_addCommunity (answers added) added communityId
            resetIndices provider
          rw [adding] at standingAdded
          simp only [CommunityAnswers.afterAdd, created, inited] at standingAdded
          rw [ih success, standingAdded]
          by_cases same : communityId = added
          · subst same
            simp
          · simp [same]

/-- The standing after the task of the blockchain, if any, was scheduled. -/
def scheduledStanding (before : Option MemberBlockchain × Bool) : Option MemberBlockchain × Bool :=
  (before.1.map fun blockchain => { blockchain with scheduled := true }, before.2)

@[simp] theorem scheduledStanding_again (before : Option MemberBlockchain × Bool) :
    scheduledStanding (scheduledStanding before) = scheduledStanding before := by
  rcases before with ⟨_ | blockchain, inited⟩ <;> rfl

/-- A community that is not in the map is not scheduled. -/
theorem scheduledStanding_of_absent {before : Option MemberBlockchain × Bool}
    (absent : ¬ before.1.isSome = true) : scheduledStanding before = before := by
  rcases before with ⟨_ | blockchain, inited⟩
  · rfl
  · exact absurd rfl absent

/-- Step 2 of `init`, where it goes through. -/
theorem standing_scheduleInitOnline {answers : CommunityId → CommunityAnswers}
    {communitiesIds : List CommunityId} {provider next : FileBasedProvider CommunityId Unit}
    (present : ∀ communityId ∈ communitiesIds, (provider.standing communityId).1.isSome = true)
    (success : Fallible.forEach
      (scheduleInitOnline (fun communityId => (answers communityId).calls)) communitiesIds provider =
        (.ok (), next)) (communityId : CommunityId) :
    next.standing communityId =
      if communityId ∈ communitiesIds then scheduledStanding (provider.standing communityId)
      else provider.standing communityId := by
  induction communitiesIds generalizing provider with
  | nil =>
      cases success
      simp
  | cons scheduled rest ih =>
      obtain ⟨_, middle, taken, success⟩ := Fallible.andThen_ok_iff.mp success
      obtain ⟨_, online, answered, marked⟩ := Fallible.andThen_ok_iff.mp taken
      obtain ⟨world, -, rfl⟩ := Fallible.onPart_ok_iff.mp answered
      obtain ⟨-, rfl⟩ := Prod.mk.inj marked
      obtain ⟨blockchain, found⟩ :=
        Option.isSome_iff_exists.mp (present scheduled (List.mem_cons_self ..))
      have standingMarked (other : CommunityId) :
          (markScheduled scheduled { provider with world := world }).standing other =
            if other = scheduled then scheduledStanding (provider.standing scheduled)
            else provider.standing other := by
        rw [standing_markScheduled]
        change (if other = scheduled then (some { initialised :=
            ((provider.standing scheduled).1.map MemberBlockchain.initialised).getD false
                                                  scheduled := true },
            (provider.standing scheduled).2) else provider.standing other) = _
        simp only [scheduledStanding, found, Option.map_some, Option.getD_some]
      have stillPresent : ∀ other ∈ rest,
          ((markScheduled scheduled { provider with world := world }).standing other).1.isSome =
            true := by
        intro other member
        rw [standingMarked]
        split
        · simp [scheduledStanding, found]
        · exact present other (List.mem_cons_of_mem _ member)
      rw [ih stillPresent success, standingMarked]
      by_cases same : communityId = scheduled
      · subst same
        simp
      · simp [same]

/-- The keys of the map are the communities with a blockchain. -/
theorem mem_keys_iff {World : Type} {provider : FileBasedProvider CommunityId World}
    (communityId : CommunityId) :
    communityId ∈ provider.blockchainsPerGroup.keys ↔
      (provider.standing communityId).1.isSome = true := by
  unfold OrderedMap.keys standing
  rw [List.mem_map, Option.isSome_iff_exists]
  constructor
  · rintro ⟨⟨_, blockchain⟩, member, rfl⟩
    exact ⟨blockchain, OrderedMap.mem_toList_iff.mp member⟩
  · rintro ⟨blockchain, found⟩
    exact ⟨(communityId, blockchain), OrderedMap.mem_toList_iff.mpr found, rfl⟩

/-- Opening the dictionary of communities changes no blockchain. -/
theorem keeps_openCommunityIdIndex {World : Type} (calls : InitCalls CommunityId World) :
    Fallible.Keeps standing (openCommunityIdIndex calls) := by
  apply Fallible.Keeps.andThen
  · exact keeps_onWorld _
  · intro opened
    cases opened with
    | true => exact Fallible.keeps_outcome _ _
    | false =>
        apply Fallible.Keeps.andThen
        · exact keeps_onWorld _
        · exact fun _ => Fallible.keeps_outcome _ _

/-- What `init` leaves, where it returns true. -/
theorem standing_init {answers : InitAnswers} {configuration : Configuration CommunityId}
    {provider next : FileBasedProvider CommunityId Unit}
    (success : init (answers.calls configuration) provider = (.ok true, next)) :
    ∃ communitiesIds, configuration.communitiesIds = .ok communitiesIds ∧
      ∀ communityId, next.standing communityId = scheduledStanding
        (if communityId ∈ communitiesIds then
          (some ((provider.standing communityId).1.getD
            { initialised := true, scheduled := false }), true)
        else provider.standing communityId) := by
  obtain ⟨_, started, starting, success⟩ := Fallible.andThen_ok_iff.mp success
  obtain ⟨-, rfl⟩ := Prod.mk.inj starting
  split at success
  · exact absurd (congrArg Prod.fst success) (by simp [Fallible.outcome])
  · obtain ⟨reset, opened, opening, success⟩ := Fallible.andThen_ok_iff.mp success
    obtain ⟨_, indexed, indexing, success⟩ := Fallible.andThen_ok_iff.mp success
    obtain ⟨-, rfl⟩ := Prod.mk.inj indexing
    obtain ⟨communitiesIds, listed, listing, success⟩ := Fallible.andThen_ok_iff.mp success
    obtain ⟨listed, rfl⟩ := Prod.mk.inj listing
    refine ⟨communitiesIds, listed, ?_⟩
    obtain ⟨added, loaded, adding, success⟩ := Fallible.andThen_ok_iff.mp success
    have unchanged := keeps_openCommunityIdIndex (answers.calls configuration)
      { provider with initalized := true }
    rw [opening] at unchanged
    cases added with
    | false => exact absurd (congrArg Prod.fst success) (by simp)
    | true =>
        rw [if_pos rfl] at success
        obtain ⟨_, scheduled, scheduling, success⟩ := Fallible.andThen_ok_iff.mp success
        obtain ⟨-, rfl⟩ := Prod.mk.inj success
        intro communityId
        have toSchedule := standing_scheduleInitOnline
          (fun other member => (mem_keys_iff other).mp member) scheduling communityId
        have before : opened.standing communityId = provider.standing communityId :=
          congrFun unchanged communityId
        rw [← before]
        have afterStep1 := standing_addCommunities adding communityId
        change _ = if _ then (some ((opened.standing communityId).1.getD _), true) else
          opened.standing communityId at afterStep1
        rw [← afterStep1, toSchedule]
        by_cases member : communityId ∈ loaded.blockchainsPerGroup.keys
        · rw [if_pos member]
        · rw [if_neg member]
          rw [mem_keys_iff] at member
          exact (scheduledStanding_of_absent member).symm

/-- What `reloadConfig` makes of the standing of a configured community. -/
def CommunityAnswers.afterReload (answers : CommunityAnswers)
    (before : Option MemberBlockchain × Bool) : Option MemberBlockchain × Bool :=
  if before.1.isSome then before else answers.afterAdd before

/-- A second reload with the same answers changes nothing. -/
theorem CommunityAnswers.afterReload_again (answers : CommunityAnswers)
    (before : Option MemberBlockchain × Bool) :
    answers.afterReload (answers.afterReload before) = answers.afterReload before := by
  rcases before with ⟨_ | blockchain, inited⟩
  · unfold afterReload afterAdd
    cases answers.create with
    | error exception => rfl
    | ok _ =>
        cases answers.init with
        | error exception => rfl
        | ok succeeded => cases succeeded <;> rfl
  · rfl

/-- A reload of one community touches no other. -/
theorem standing_reloadCommunity {answers : CommunityId → CommunityAnswers}
    {reloaded : CommunityId} {before after : Nat}
    {provider next : FileBasedProvider CommunityId Unit}
    (success : reloadCommunity (fun communityId => (answers communityId).calls) reloaded before
      provider = (.ok after, next)) (communityId : CommunityId) :
    next.standing communityId =
      if communityId = reloaded then (answers reloaded).afterReload (provider.standing reloaded)
      else provider.standing communityId := by
  unfold reloadCommunity at success
  unfold CommunityAnswers.afterReload
  rw [contains_eq_isSome] at success
  by_cases present : (provider.standing reloaded).1.isSome = true
  · rw [if_pos present] at success ⊢
    obtain ⟨_, answered, answering, success⟩ := Fallible.andThen_ok_iff.mp success
    obtain ⟨world, -, rfl⟩ := Fallible.onPart_ok_iff.mp answering
    obtain ⟨-, rfl⟩ := Prod.mk.inj success
    split
    · rename_i same
      rw [same]
    · rfl
  · rw [if_neg present] at success ⊢
    obtain ⟨_, _, topic, success⟩ := Fallible.andThen_ok_iff.mp success
    obtain ⟨-, rfl⟩ := Prod.mk.inj topic
    obtain ⟨added, _, adding, success⟩ := Fallible.andThen_ok_iff.mp success
    obtain ⟨-, rfl⟩ := Prod.mk.inj success
    have standingAdded := standing_addCommunity (answers reloaded) reloaded communityId false provider
    rw [adding] at standingAdded
    exact standingAdded

/-- A reload touches the communities that are listed. -/
theorem standing_reloadCommunities {answers : CommunityId → CommunityAnswers}
    {communitiesIds : List CommunityId} {before after : Nat}
    {provider next : FileBasedProvider CommunityId Unit}
    (success : reloadCommunities (fun communityId => (answers communityId).calls) communitiesIds
      before provider = (.ok after, next)) (communityId : CommunityId) :
    next.standing communityId =
      if communityId ∈ communitiesIds then
        (answers communityId).afterReload (provider.standing communityId)
      else provider.standing communityId := by
  induction communitiesIds generalizing before provider with
  | nil =>
      obtain ⟨-, rfl⟩ := Prod.mk.inj success
      simp
  | cons reloaded rest ih =>
      obtain ⟨count, middle, taken, success⟩ := Fallible.andThen_ok_iff.mp success
      rw [ih success, standing_reloadCommunity taken communityId]
      by_cases same : communityId = reloaded
      · subst same
        simp [CommunityAnswers.afterReload_again]
      · simp [same]

/-- What `reloadConfig` leaves, where it returns. -/
theorem standing_reloadConfig {configuration : Configuration CommunityId} {count : Nat}
    {provider next : FileBasedProvider CommunityId Unit}
    (success : reloadConfig configuration.calls provider = some (.ok count, next)) :
    ∃ communitiesIds, configuration.communitiesIds = .ok communitiesIds ∧
      ∀ communityId, next.standing communityId =
        if communityId ∈ communitiesIds then
          (configuration.answers communityId).afterReload (provider.standing communityId)
        else provider.standing communityId := by
  unfold reloadConfig at success
  split at success
  · simp at success
  · split at success
    · simp at success
    · obtain ⟨communitiesIds, _, listing, success⟩ :=
        Fallible.andThen_ok_iff.mp (Option.some.inj success)
      obtain ⟨listed, rfl⟩ := Prod.mk.inj listing
      exact ⟨communitiesIds, listed, standing_reloadCommunities success⟩

/-! ## Sequences of calls -/

/-- Every community whose last `FileBased::init` has returned true is in the map. -/
def SucceededKept (provider : FileBasedProvider CommunityId Unit) : Prop :=
  ∀ communityId, (provider.standing communityId).2 = true →
    (provider.standing communityId).1.isSome = true

/-- What succeeded is in the map after it was added. -/
theorem CommunityAnswers.afterAdd_kept (answers : CommunityAnswers)
    {before : Option MemberBlockchain × Bool} (kept : before.2 = true → before.1.isSome = true) :
    (answers.afterAdd before).2 = true → (answers.afterAdd before).1.isSome = true := by
  unfold afterAdd
  cases answers.create with
  | error exception => exact kept
  | ok _ =>
      cases answers.init with
      | error exception => simp
      | ok succeeded => cases succeeded <;> simp

/-- What happens in the world does not change the membership. -/
theorem maintains_onWorld {Value : Type} (operation : Throwing Unit Value) :
    Fallible.Maintains (SucceededKept : FileBasedProvider CommunityId Unit → Prop)
      (onWorld operation) :=
  fun _ kept => kept

/-- Adding a community keeps what succeeded in the map. -/
theorem maintains_addCommunity (answers : CommunityAnswers) (added : CommunityId)
    (resetIndices : Bool) :
    Fallible.Maintains SucceededKept (addCommunity answers.calls added resetIndices) := by
  intro provider kept communityId
  rw [standing_addCommunity]
  split
  · exact answers.afterAdd_kept (kept added)
  · exact kept communityId

/-- Adding communities keeps those that succeeded. -/
theorem maintains_addCommunities (answers : CommunityId → CommunityAnswers) (resetIndices : Bool)
    (communitiesIds : List CommunityId) :
    Fallible.Maintains SucceededKept (addCommunities (fun communityId => (answers communityId).calls)
      resetIndices communitiesIds) := by
  induction communitiesIds with
  | nil => exact Fallible.maintains_outcome _ _
  | cons added rest ih =>
      refine Fallible.Maintains.andThen (Fallible.maintains_outcome _ _) fun _ =>
        (maintains_addCommunity (answers added) added resetIndices).andThen fun wasAdded => ?_
      cases wasAdded with
      | true => exact ih
      | false => exact Fallible.maintains_outcome _ _

/-- Scheduling their start keeps them. -/
theorem maintains_scheduleInitOnline (answers : CommunityId → CommunityAnswers)
    (scheduled : CommunityId) :
    Fallible.Maintains SucceededKept
      (scheduleInitOnline (fun communityId => (answers communityId).calls) scheduled) := by
  refine Fallible.Maintains.andThen (maintains_onWorld _) fun _ provider kept communityId => ?_
  change ((provider.markScheduled scheduled).standing communityId).2 = true →
    ((provider.markScheduled scheduled).standing communityId).1.isSome = true
  rw [standing_markScheduled]
  split
  · exact fun _ => rfl
  · exact kept communityId

/-- Loading the configuration keeps them. -/
theorem maintains_loadCommunities (answers : CommunityId → CommunityAnswers) (resetIndices : Bool)
    (communitiesIds : List CommunityId) :
    Fallible.Maintains SucceededKept (loadCommunities (fun communityId => (answers communityId).calls)
      resetIndices communitiesIds) := by
  refine (maintains_addCommunities answers resetIndices communitiesIds).andThen
    fun added provider kept => ?_
  cases added with
  | false => exact kept
  | true =>
      exact Fallible.Maintains.andThen
        (Fallible.Maintains.forEach (maintains_scheduleInitOnline answers) _)
        (fun _ => Fallible.maintains_outcome _ _) provider kept

/-- So does the whole initialisation, whatever it is answered. -/
theorem maintains_init (answers : InitAnswers) (configuration : Configuration CommunityId) :
    Fallible.Maintains SucceededKept (init (answers.calls configuration)) := by
  refine Fallible.Maintains.andThen (fun _ kept => kept) fun _ => ?_
  split
  · exact Fallible.maintains_outcome _ _
  · have opens : Fallible.Maintains SucceededKept
        (openCommunityIdIndex (answers.calls configuration)) := by
      intro provider kept communityId
      rw [keeps_openCommunityIdIndex]
      exact kept communityId
    exact opens.andThen fun reset => Fallible.Maintains.andThen (fun _ kept => kept) fun _ =>
      Fallible.Maintains.andThen (Fallible.maintains_outcome _ _)
        (maintains_loadCommunities configuration.answers reset)

/-- Reloading one community keeps them. -/
theorem maintains_reloadCommunity (answers : CommunityId → CommunityAnswers)
    (reloaded : CommunityId) (count : Nat) :
    Fallible.Maintains SucceededKept
      (reloadCommunity (fun communityId => (answers communityId).calls) reloaded count) := by
  intro provider kept
  unfold reloadCommunity
  split
  · exact Fallible.Maintains.andThen (maintains_onWorld _)
      (fun _ => Fallible.maintains_outcome _ _) provider kept
  · exact Fallible.Maintains.andThen (Fallible.maintains_outcome _ _)
      (fun _ => (maintains_addCommunity (answers reloaded) reloaded false).andThen
        fun _ => Fallible.maintains_outcome _ _) provider kept

/-- Reloading all keeps them. -/
theorem maintains_reloadCommunities (answers : CommunityId → CommunityAnswers)
    (communitiesIds : List CommunityId) (count : Nat) :
    Fallible.Maintains SucceededKept
      (reloadCommunities (fun communityId => (answers communityId).calls) communitiesIds count) := by
  induction communitiesIds generalizing count with
  | nil => exact Fallible.maintains_outcome _ _
  | cons reloaded rest ih => exact (maintains_reloadCommunity answers reloaded count).andThen ih

/-- And so does a reload of the configuration. -/
theorem SucceededKept.reloadConfig {configuration : Configuration CommunityId}
    {result : Except Exception Nat} {provider next : FileBasedProvider CommunityId Unit}
    (kept : SucceededKept provider)
    (taken : provider.reloadConfig configuration.calls = some (result, next)) :
    SucceededKept next := by
  unfold FileBasedProvider.reloadConfig at taken
  split at taken
  · cases taken
    exact kept
  · split at taken
    · cases taken
    · have maintains : Fallible.Maintains SucceededKept
          ((Fallible.outcome configuration.calls.communitiesIds).andThen fun communitiesIds =>
            reloadCommunities (fun communityId => (configuration.answers communityId).calls)
              communitiesIds 0) :=
        Fallible.Maintains.andThen (Fallible.maintains_outcome _ _) fun communitiesIds =>
          maintains_reloadCommunities configuration.answers communitiesIds 0
      have reached := congrArg Prod.snd (Option.some.inj taken)
      dsimp only at reached
      rw [← reached]
      exact maintains provider kept

/-! ## When the map is right -/

/-- What `init` has to find: each blockchain in the map was initialised itself, and where its
community is not in the configuration any more, it is one whose last `FileBased::init` has
succeeded. -/
def InitFinds (provider : FileBasedProvider CommunityId Unit) (communitiesIds : List CommunityId) :
    Prop :=
  ∀ communityId blockchain, provider.blockchainsPerGroup.find? communityId = some blockchain →
    blockchain.initialised = true ∧
      (communityId ∈ communitiesIds ∨ provider.lastInit communityId = true)

/-- What `reloadConfig` has to find: each blockchain in the map was initialised, by the last
`FileBased::init` of its community, and its task was scheduled; and the `FileBased::init` of each
new community of the configuration returns false. -/
structure ReloadFinds (provider : FileBasedProvider CommunityId Unit)
    (answers : CommunityId → CommunityAnswers) (communitiesIds : List CommunityId) : Prop where
  present : ∀ communityId blockchain,
    provider.blockchainsPerGroup.find? communityId = some blockchain →
      blockchain.initialised = true ∧ blockchain.scheduled = true ∧
        provider.lastInit communityId = true
  added : ∀ communityId ∈ communitiesIds,
    provider.blockchainsPerGroup.contains communityId = false →
      (answers communityId).create = .ok () → (answers communityId).init = .ok false

namespace Session

/-- What a call that is to succeed has to find. -/
def Finds (session : Session CommunityId) : ProviderEvent CommunityId → Prop
  | .init answers configuration => ∀ next communitiesIds,
      FileBasedProvider.init (answers.calls configuration) session.provider = (.ok true, next) →
        configuration.communitiesIds = .ok communitiesIds →
          InitFinds session.provider communitiesIds
  | .reloadConfig configuration => ∀ count next communitiesIds,
      session.provider.reloadConfig configuration.calls = some (.ok count, next) →
        configuration.communitiesIds = .ok communitiesIds →
          ReloadFinds session.provider configuration.answers communitiesIds

end Session

/-- The standing of a community in a map that is right. -/
def StandingRight (standing : Option MemberBlockchain × Bool) : Prop :=
  (standing.1.isSome = true ↔ standing.2 = true) ∧
    ∀ blockchain, standing.1 = some blockchain →
      blockchain.initialised = true ∧ blockchain.scheduled = true

/-- The map is right if it is for every community by itself. -/
theorem membershipRight_iff {provider : FileBasedProvider CommunityId Unit} :
    MembershipRight provider ↔ ∀ communityId, StandingRight (provider.standing communityId) := by
  constructor
  · exact fun right communityId => ⟨right.members communityId, right.following communityId⟩
  · exact fun all => ⟨fun communityId => (all communityId).1, fun communityId => (all communityId).2⟩

/-- A scheduled community stands right if its blockchain was initialised. -/
theorem standingRight_scheduled_iff {before : Option MemberBlockchain × Bool}
    (kept : before.2 = true → before.1.isSome = true) :
    StandingRight (scheduledStanding before) ↔
      ∀ blockchain, before.1 = some blockchain → blockchain.initialised = true ∧ before.2 = true := by
  rcases before with ⟨_ | blockchain, _ | _⟩ <;> simp [StandingRight, scheduledStanding] at kept ⊢

/-- A successful `init` leaves the map right where it found what it has to find. -/
theorem SucceededKept.membershipRight_init_iff {provider next : FileBasedProvider CommunityId Unit}
    (kept : SucceededKept provider) {communitiesIds : List CommunityId}
    (left : ∀ communityId, next.standing communityId = scheduledStanding
      (if communityId ∈ communitiesIds then
        (some ((provider.standing communityId).1.getD { initialised := true, scheduled := false }),
          true)
      else provider.standing communityId)) :
    MembershipRight next ↔ InitFinds provider communitiesIds := by
  rw [membershipRight_iff]
  apply forall_congr'
  intro communityId
  have keptHere := kept communityId
  change _ ↔ ∀ blockchain, (provider.standing communityId).1 = some blockchain →
    blockchain.initialised = true ∧
      (communityId ∈ communitiesIds ∨ (provider.standing communityId).2 = true)
  rw [left]
  by_cases configured : communityId ∈ communitiesIds
  · rw [if_pos configured, standingRight_scheduled_iff (fun _ => rfl)]
    rcases (provider.standing communityId).1 with _ | blockchain
    · simp
    · simp [configured]
  · rw [if_neg configured, standingRight_scheduled_iff keptHere]
    simp [configured]

/-- A new community stands right after a reload only if it could not be initialised. -/
theorem CommunityAnswers.standingRight_afterReload_iff (answers : CommunityAnswers)
    {before : Option MemberBlockchain × Bool} (kept : before.2 = true → before.1.isSome = true)
    (absent : before.1.isSome = false) :
    StandingRight (answers.afterReload before) ↔
      (answers.create = .ok () → answers.init = .ok false) := by
  rcases before with ⟨_ | blockchain, _ | _⟩
  · unfold afterReload afterAdd StandingRight
    cases answers.create with
    | error exception => simp
    | ok _ =>
        cases answers.init with
        | error exception => simp
        | ok succeeded => cases succeeded <;> simp
  · simp at kept
  · simp at absent
  · simp at absent

/-- A successful `reloadConfig` leaves the map right where it found what it has to find. -/
theorem SucceededKept.membershipRight_reload_iff
    {provider next : FileBasedProvider CommunityId Unit} (kept : SucceededKept provider)
    {answers : CommunityId → CommunityAnswers} {communitiesIds : List CommunityId}
    (left : ∀ communityId, next.standing communityId =
      if communityId ∈ communitiesIds then
        (answers communityId).afterReload (provider.standing communityId)
      else provider.standing communityId) :
    MembershipRight next ↔ ReloadFinds provider answers communitiesIds := by
  rw [membershipRight_iff]
  have present (communityId : CommunityId)
      (inside : (provider.standing communityId).1.isSome = true) :
      next.standing communityId = provider.standing communityId := by
    rw [left]
    split
    · exact if_pos inside
    · rfl
  constructor
  · intro right
    refine ⟨fun communityId blockchain found => ?_, fun communityId configured absent created => ?_⟩
    · have foundHere : (provider.standing communityId).1 = some blockchain := found
      have inside : (provider.standing communityId).1.isSome = true := by rw [foundHere]; rfl
      have rightHere := right communityId
      rw [present communityId inside] at rightHere
      obtain ⟨initialised, scheduled⟩ := rightHere.2 blockchain foundHere
      exact ⟨initialised, scheduled, rightHere.1.mp inside⟩
    · have rightHere := right communityId
      rw [left, if_pos configured] at rightHere
      exact ((answers communityId).standingRight_afterReload_iff (kept communityId) absent).mp
        rightHere created
  · intro finds communityId
    rcases found : (provider.standing communityId).1 with _ | blockchain
    · have absent : (provider.standing communityId).1.isSome = false := by rw [found]; rfl
      rw [left]
      split
      · rename_i configured
        exact ((answers communityId).standingRight_afterReload_iff (kept communityId) absent).mpr
          (finds.added communityId configured absent)
      · have notInited : ¬ (provider.standing communityId).2 = true := by
          intro inited
          exact Bool.false_ne_true (absent.symm.trans (kept communityId inited))
        exact ⟨by simp [found, notInited], by simp [found]⟩
    · have inside : (provider.standing communityId).1.isSome = true := by rw [found]; rfl
      obtain ⟨initialised, scheduled, inited⟩ := finds.present communityId blockchain found
      rw [present communityId inside]
      refine ⟨⟨fun _ => inited, fun _ => inside⟩, fun other foundOther => ?_⟩
      cases found.symm.trans foundOther
      exact ⟨initialised, scheduled⟩

namespace Session

/-- After a call that has succeeded the map is right. -/
def Right (session : Session CommunityId) : Prop :=
  session.succeeded = true → MembershipRight session.provider

/-- One call leaves the map right exactly if it finds what it needs. -/
theorem right_step_iff {session next : Session CommunityId} {event : ProviderEvent CommunityId}
    (kept : SucceededKept session.provider) (taken : session.step event = some next) :
    next.Right ↔ session.Finds event := by
  cases event with
  | init answers configuration =>
      cases taken
      unfold Right Finds
      rcases ending : FileBasedProvider.init (answers.calls configuration) session.provider with
        ⟨exception | succeeded, provider⟩
      · simp [afterInit, ending]
      · cases succeeded with
        | false => simp [afterInit, ending]
        | true =>
            obtain ⟨communitiesIds, listed, left⟩ := standing_init ending
            simp [afterInit, ending, listed, kept.membershipRight_init_iff left]
  | reloadConfig configuration =>
      obtain ⟨⟨result, provider⟩, ending, rfl⟩ := Option.map_eq_some_iff.mp taken
      unfold Right Finds
      cases result with
      | error exception => simp [afterReload, ending]
      | ok count =>
          obtain ⟨communitiesIds, listed, left⟩ := standing_reloadConfig ending
          simp [afterReload, ending, listed, kept.membershipRight_reload_iff left]

/-- No call takes out what succeeded. -/
theorem kept_step {session next : Session CommunityId} {event : ProviderEvent CommunityId}
    (kept : SucceededKept session.provider) (taken : session.step event = some next) :
    SucceededKept next.provider := by
  cases event with
  | init answers configuration =>
      cases taken
      have still := maintains_init answers configuration session.provider kept
      rcases ending : FileBasedProvider.init (answers.calls configuration) session.provider with
        ⟨exception | succeeded, provider⟩
      · rw [ending] at still
        exact still
      · rw [ending] at still
        exact still
  | reloadConfig configuration =>
      obtain ⟨⟨result, provider⟩, ending, rfl⟩ := Option.map_eq_some_iff.mp taken
      have still := kept.reloadConfig ending
      cases result <;> exact still

/-- Where a null pointer is dereferenced, no call succeeds. -/
theorem finds_of_none {session : Session CommunityId} {event : ProviderEvent CommunityId}
    (crashed : session.step event = none) : session.Finds event := by
  cases event with
  | init answers configuration => cases crashed
  | reloadConfig configuration =>
      intro count next communitiesIds ending
      simp [step, ending] at crashed

/-- In a sequence of calls, the map is right after every call that has succeeded if and only if
every call found what it has to find. -/
theorem membershipRight_iff_finds (events : List (ProviderEvent CommunityId)) :
    (∀ first rest reached, events = first ++ rest →
      runEvents step first (start : Session CommunityId) = some reached → reached.Right) ↔
    StepsMeet step Finds events (start : Session CommunityId) := by
  have stable : ∀ (session : Session CommunityId) event next,
      SucceededKept session.provider ∧ session.Right → session.Finds event →
        session.step event = some next → SucceededKept next.provider ∧ next.Right := by
    rintro session event next ⟨kept, -⟩ finds taken
    exact ⟨kept_step kept taken, (right_step_iff kept taken).mpr finds⟩
  have found : ∀ (session : Session CommunityId) event,
      SucceededKept session.provider ∧ session.Right →
        (∀ next, session.step event = some next → next.Right) → session.Finds event := by
    rintro session event ⟨kept, -⟩ right
    cases taken : session.step event with
    | some next => exact (right_step_iff kept taken).mp (right next taken)
    | none => exact finds_of_none taken
  apply good_iff_stepsMeet stable (fun session valid => valid.2) found
  exact ⟨fun communityId inited => absurd inited (by simp [start, new, standing]),
    fun succeeded => absurd succeeded (by simp [start])⟩

def exampleAnswers : CommunityAnswers where
  topicId := .ok ()
  create := .ok ()
  init := .ok true
  getOrAddIndexForString := .ok 1
  updateListenerCommunity := .ok ()
  initOnline := .ok ()

def exampleConfiguration (communitiesIds : List Nat) : Configuration Nat where
  communitiesIds := .ok communitiesIds
  answers := fun _ => exampleAnswers

def exampleInitAnswers : InitAnswers where
  hieroClients := 3
  hieroClientsPerCommunity := 3
  communityIdIndexInit := .ok true
  communityIdIndexReset := .ok ()

/-- A community that is added to the configuration later never follows its topic. -/
theorem not_membershipRight_reloaded :
    ∃ reached, runEvents step [.init exampleInitAnswers (exampleConfiguration [1]),
        .reloadConfig (exampleConfiguration [1, 2])] start = some reached ∧
      reached.succeeded = true ∧ ¬ MembershipRight reached.provider := by
  refine ⟨_, rfl, rfl, fun right => ?_⟩
  have following := right.following 2 { initialised := true, scheduled := false } rfl
  exact absurd following.2 (by simp)

end Session

end FileBasedProvider

end Blockchain

end GradidoNode
