import GradidoNode.Blockchain.FileBased
import GradidoNode.Blockchain.GetTransactionForId
import GradidoNode.Library.Run

/-!
# Recognising transactions that were added before

The cache keeps one transaction number for the first eight bytes of a signature. A look-up
compares the whole signature with the stored one, adding compares the eight bytes only.
-/

namespace GradidoNode

open Library Cache

namespace Blockchain

variable {Octet Entry : Type} [LinearOrder Octet] (signatureOctet : List UInt8 → Octet)

/-- `TransactionHash::has`, asked with a first signature. None stands for the null pointer
that is dereferenced where the number leads to no transaction. -/
def hasTransaction (firstSignatureOf : Entry → List UInt8) (blocks : List (StoredBlock Entry))
    (cache : TransactionHash Octet) (firstSignature : List UInt8) :
    Except Exception (Option Bool) :=
  match cache.signaturePartTransactionNrs.find? (signatureOctet firstSignature) with
  | none => .ok (some false)
  | some transactionNr =>
      (FileBased.getTransactionForId transactionNr blocks).map fun found =>
        -- hash collision check
        found.map fun entry => decide (firstSignatureOf entry = firstSignature)

/-- What happens to the cache: a transaction is pushed, or an entry has been in it for the
whole time to live. -/
inductive HashEvent (Octet : Type)
  | push (confirmed : ConfirmedTransaction)
  | expire (octet : Octet)

/-- The cache with the transactions whose time to live has not passed. -/
structure HashWindow (Octet : Type) [LinearOrder Octet] where
  cache : TransactionHash Octet
  unexpired : List ConfirmedTransaction
  threw : Bool

namespace HashWindow

def start : HashWindow Octet where
  cache := { signaturePartTransactionNrs := ∅ }
  unexpired := []
  threw := false

def step (window : HashWindow Octet) : HashEvent Octet → Option (HashWindow Octet)
  | .push confirmed =>
      let pushed := TransactionHash.push signatureOctet confirmed.firstSignature confirmed.id
        window.cache
      some {
        cache := pushed.2
        unexpired := window.unexpired ++ [confirmed]
        threw := window.threw || !pushed.1.isOk }
  | .expire octet => some { window with
      cache := ⟨window.cache.signaturePartTransactionNrs.erase octet⟩
      unexpired := window.unexpired.filter fun confirmed =>
        signatureOctet confirmed.firstSignature ≠ octet }

/-- The blockchain stores these transactions under their numbers. -/
structure StoredIn (unexpired : List ConfirmedTransaction) (blocks : List (StoredBlock Entry))
    (transactionOf : UInt64 → Entry) (firstSignatureOf : Entry → List UInt8) : Prop where
  chain : FileBased.ChainStored blocks transactionOf
  filled : FileBased.RangesFilled blocks
  numbers : ∀ confirmed ∈ unexpired, confirmed.id ∈ FileBased.numbersOf blocks
  signatures : ∀ confirmed ∈ unexpired,
    firstSignatureOf (transactionOf confirmed.id) = confirmed.firstSignature

/-- No push has thrown, and exactly the unexpired transactions are recognised. -/
structure Exact (Entry : Type) (window : HashWindow Octet) : Prop where
  neverThrew : window.threw = false
  recognises : ∀ (blocks : List (StoredBlock Entry)) transactionOf firstSignatureOf,
    StoredIn window.unexpired blocks transactionOf firstSignatureOf →
    ∀ firstSignature, hasTransaction signatureOctet firstSignatureOf blocks window.cache
        firstSignature =
      .ok (some (window.unexpired.any fun confirmed =>
        decide (confirmed.firstSignature = firstSignature)))

/-- A transaction is pushed while no unexpired one has its first eight bytes. -/
def FreshOctet (window : HashWindow Octet) : HashEvent Octet → Prop
  | .push confirmed => ∀ other ∈ window.unexpired,
      signatureOctet other.firstSignature ≠ signatureOctet confirmed.firstSignature
  | .expire _ => True

/-- The entries of the cache are those of the unexpired transactions. -/
structure Recorded (window : HashWindow Octet) : Prop where
  neverThrew : window.threw = false
  entries : ∀ octet transactionNr,
    window.cache.signaturePartTransactionNrs.find? octet = some transactionNr ↔
      ∃ confirmed ∈ window.unexpired,
        signatureOctet confirmed.firstSignature = octet ∧ confirmed.id = transactionNr

variable {signatureOctet}

theorem recorded_start : Recorded signatureOctet (start : HashWindow Octet) where
  neverThrew := rfl
  entries octet transactionNr := by simp [start]

/-- A free octet is one that no unexpired transaction has. -/
theorem Recorded.find?_eq_none_iff {window : HashWindow Octet}
    (recorded : Recorded signatureOctet window) {octet : Octet} :
    window.cache.signaturePartTransactionNrs.find? octet = none ↔
      ∀ other ∈ window.unexpired, signatureOctet other.firstSignature ≠ octet := by
  rw [Option.eq_none_iff_forall_ne_some]
  constructor
  · intro absent other member same
    exact absent other.id ((recorded.entries octet other.id).mpr ⟨other, member, same, rfl⟩)
  · intro fresh transactionNr found
    obtain ⟨other, member, same, _⟩ := (recorded.entries octet transactionNr).mp found
    exact fresh other member same

theorem Recorded.push {window next : HashWindow Octet} {confirmed : ConfirmedTransaction}
    (recorded : Recorded signatureOctet window)
    (fresh : window.FreshOctet signatureOctet (.push confirmed))
    (taken : window.step signatureOctet (.push confirmed) = some next) :
    Recorded signatureOctet next := by
  have absent := recorded.find?_eq_none_iff.mpr fresh
  have pushed := TransactionHash.push_ok_iff.mpr
    ⟨absent, @Eq.refl _ { window.cache with
      signaturePartTransactionNrs := window.cache.signaturePartTransactionNrs.set
        (signatureOctet confirmed.firstSignature) confirmed.id }⟩
  simp only [step, pushed, Option.some.injEq] at taken
  subst taken
  refine ⟨by simp [recorded.neverThrew, Except.isOk, Except.toBool], fun octet transactionNr => ?_⟩
  simp only [List.mem_append, List.mem_singleton]
  by_cases same : octet = signatureOctet confirmed.firstSignature
  · subst same
    rw [OrderedMap.set, OrderedMap.find?_alter_self]
    constructor
    · intro found
      exact ⟨confirmed, Or.inr rfl, rfl, Option.some.inj found⟩
    · rintro ⟨other, isOld | rfl, sameOctet, isNumber⟩
      · exact absurd sameOctet (fresh other isOld)
      · rw [isNumber]
  · rw [OrderedMap.set, OrderedMap.find?_alter_of_ne _ same, recorded.entries]
    constructor
    · rintro ⟨other, member, found⟩
      exact ⟨other, Or.inl member, found⟩
    · rintro ⟨other, isOld | rfl, sameOctet, isNumber⟩
      · exact ⟨other, isOld, sameOctet, isNumber⟩
      · exact absurd sameOctet.symm same

theorem Recorded.expire {window next : HashWindow Octet} {octet : Octet}
    (recorded : Recorded signatureOctet window)
    (taken : window.step signatureOctet (.expire octet) = some next) :
    Recorded signatureOctet next := by
  cases taken
  refine ⟨recorded.neverThrew, fun other transactionNr => ?_⟩
  simp only [List.mem_filter, decide_eq_true_eq]
  by_cases same : other = octet
  · subst same
    rw [OrderedMap.find?_erase_self]
    constructor
    · intro found
      cases found
    · rintro ⟨confirmed, ⟨_, different⟩, sameOctet, _⟩
      exact absurd sameOctet different
  · rw [OrderedMap.find?_erase_of_ne _ same, recorded.entries]
    constructor
    · rintro ⟨confirmed, member, sameOctet, isNumber⟩
      exact ⟨confirmed, ⟨member, fun isOctet => same (sameOctet.symm.trans isOctet)⟩, sameOctet,
        isNumber⟩
    · rintro ⟨confirmed, ⟨member, _⟩, found⟩
      exact ⟨confirmed, member, found⟩

/-- The look-up follows the number to the stored transaction and compares its signature. -/
theorem Recorded.exact {window : HashWindow Octet} (recorded : Recorded signatureOctet window) :
    Exact signatureOctet Entry window := by
  refine ⟨recorded.neverThrew, fun blocks transactionOf firstSignatureOf stored signature => ?_⟩
  unfold hasTransaction
  cases found : window.cache.signaturePartTransactionNrs.find? (signatureOctet signature) with
  | none =>
      have absent := recorded.find?_eq_none_iff.mp found
      have unknown : (window.unexpired.any fun confirmed =>
          decide (confirmed.firstSignature = signature)) = false := by
        rw [List.any_eq_false]
        intro confirmed member same
        exact absent confirmed member (congrArg signatureOctet (of_decide_eq_true same))
      rw [unknown]
  | some transactionNr =>
      obtain ⟨confirmed, member, _, rfl⟩ := (recorded.entries _ _).mp found
      have fetched := FileBased.getTransactionForId_of_mem stored.chain stored.filled
        (stored.numbers confirmed member)
      dsimp only
      rw [fetched]
      refine congrArg (fun answer => Except.ok (some answer)) ?_
      dsimp only
      rw [stored.signatures confirmed member, Bool.eq_iff_iff, decide_eq_true_iff, List.any_eq_true]
      constructor
      · intro same
        exact ⟨confirmed, member, decide_eq_true same⟩
      · rintro ⟨other, isOther, same⟩
        -- another transaction with this signature has the same entry, and so the same number
        have otherFound := (recorded.entries (signatureOctet signature) other.id).mpr
          ⟨other, isOther, congrArg signatureOctet (of_decide_eq_true same), rfl⟩
        have sameNumber : confirmed.id = other.id :=
          Option.some.inj (found.symm.trans otherFound)
        rw [← stored.signatures confirmed member, sameNumber, stored.signatures other isOther]
        exact of_decide_eq_true same

/-- A push with an octet that is taken throws. -/
theorem fresh_of_not_threw {window : HashWindow Octet} {event : HashEvent Octet}
    (recorded : Recorded signatureOctet window)
    (right : ∀ next, window.step signatureOctet event = some next →
      Exact signatureOctet Entry next) : window.FreshOctet signatureOctet event := by
  cases event with
  | expire octet => trivial
  | push confirmed =>
      refine recorded.find?_eq_none_iff.mp ?_
      have exactly := (right _ rfl).neverThrew
      cases found : window.cache.signaturePartTransactionNrs.find?
          (signatureOctet confirmed.firstSignature) with
      | none => rfl
      | some transactionNr =>
          simp [TransactionHash.push, found, Except.isOk, Except.toBool] at exactly

/-- In a sequence of pushes and expiries the duplicate detection is exact throughout if and
only if each transaction is pushed while its octet is free. -/
theorem exact_iff_freshOctets (signatureOctet : List UInt8 → Octet) (Entry : Type)
    (events : List (HashEvent Octet)) :
    (∀ first rest reached, events = first ++ rest →
      runEvents (step signatureOctet) first start = some reached →
        Exact signatureOctet Entry reached) ↔
      StepsMeet (step signatureOctet) (FreshOctet signatureOctet) events start := by
  have stable : ∀ (window : HashWindow Octet) event next, Recorded signatureOctet window →
      window.FreshOctet signatureOctet event → window.step signatureOctet event = some next →
        Recorded signatureOctet next := by
    intro window event next recorded fresh taken
    cases event with
    | push confirmed => exact recorded.push fresh taken
    | expire octet => exact recorded.expire taken
  exact good_iff_stepsMeet stable (fun _ recorded => recorded.exact)
    (fun _ _ recorded right => fresh_of_not_threw recorded right) events recorded_start

section Example

def exampleConfirmed (id : UInt64) (firstSignature : List UInt8) : ConfirmedTransaction where
  id := id
  month := 5
  year := 2024
  transactionType := 1
  coinCommunityId := ""
  serializedTransaction := []
  firstSignature := firstSignature
  messageId := []

/-- The first eight bytes. -/
def firstBytes (signature : List UInt8) : UInt64 := LittleEndian.decode (signature.take 8)

/-- Two signatures of 64 bytes that agree in their first eight bytes. -/
theorem not_exact_collision :
    ¬ ∀ first rest reached,
      [HashEvent.push (exampleConfirmed 1 (List.replicate 64 1)),
        .push (exampleConfirmed 2 (List.replicate 8 1 ++ List.replicate 56 2))] = first ++ rest →
      runEvents (step firstBytes) first start = some reached →
        Exact firstBytes UInt64 reached := by
  intro always
  have exactly := always _ [] _ (List.append_nil _).symm rfl
  exact absurd exactly.neverThrew (by decide)

end Example

end HashWindow

end Blockchain

end GradidoNode
