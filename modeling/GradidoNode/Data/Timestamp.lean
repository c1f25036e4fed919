import GradidoNode.Library.FixedWidth
import Mathlib.Data.Int.Order.Basic
import Mathlib.Data.Prod.Lex

/-!
# Timestamps

Seconds and nanoseconds, in the order of time. A timestamp of the network has less than a
second of nanoseconds.
-/

namespace GradidoNode

open Library

namespace Data

structure Timestamp where
  seconds : Int64
  nanos : Int32
  deriving DecidableEq, Repr

namespace Timestamp

/-- By the seconds, then by the nanoseconds. -/
def position (timestamp : Timestamp) : Lex (Int × Int) :=
  toLex (timestamp.seconds.toInt, timestamp.nanos.toInt)

theorem position_injective : Function.Injective position := by
  intro first second same
  obtain ⟨sameSeconds, sameNanos⟩ := Prod.mk.inj (toLex.injective same)
  cases first
  cases second
  cases Int64.toInt_inj.mp sameSeconds
  cases Int32.toInt_inj.mp sameNanos
  rfl

instance : LinearOrder Timestamp := LinearOrder.lift' position position_injective

theorem lt_iff {first second : Timestamp} : first < second ↔
    first.seconds.toInt < second.seconds.toInt ∨
      (first.seconds.toInt = second.seconds.toInt ∧ first.nanos.toInt < second.nanos.toInt) :=
  Prod.Lex.lt_iff

/-- The default constructor. -/
instance : Inhabited Timestamp := ⟨⟨0, 0⟩⟩

/-- `empty`: a timestamp that was never set. -/
def empty (timestamp : Timestamp) : Bool :=
  timestamp.seconds = 0 && timestamp.nanos = 0

/-- A second of nanoseconds is not reached. -/
def Canonical (timestamp : Timestamp) : Prop :=
  0 ≤ timestamp.nanos.toInt ∧ timestamp.nanos.toInt < 1000000000

instance (timestamp : Timestamp) : Decidable timestamp.Canonical :=
  inferInstanceAs (Decidable (_ ∧ _))

/-- The next canonical timestamp. -/
structure ImmediateSuccessor (timestamp next : Timestamp) : Prop where
  canonical : next.Canonical
  later : timestamp < next
  least : ∀ other : Timestamp, other.Canonical → timestamp < other → next ≤ other

theorem toInt_add_one {nanos : Int32} (nonnegative : 0 ≤ nanos.toInt)
    (below : nanos.toInt < 1000000000) : (nanos + 1).toInt = nanos.toInt + 1 := by
  rw [Int32.toInt_add]
  change (nanos.toInt + 1).bmod (2 ^ 32) = nanos.toInt + 1
  apply Int.bmod_eq_of_le
  · omega
  · omega

/-- One nanosecond more is the next timestamp, unless the second is over. -/
theorem immediateSuccessor_add_nano_iff {timestamp : Timestamp}
    (canonical : timestamp.Canonical) :
    timestamp.ImmediateSuccessor ⟨timestamp.seconds, timestamp.nanos + 1⟩ ↔
      timestamp.nanos ≠ 999999999 := by
  obtain ⟨nonnegative, below⟩ := canonical
  have nanos : (timestamp.nanos + 1).toInt = timestamp.nanos.toInt + 1 :=
    toInt_add_one nonnegative below
  constructor
  · rintro successor isLast
    have bounded : (timestamp.nanos + 1).toInt < 1000000000 := successor.canonical.2
    rw [isLast] at bounded
    exact absurd bounded (by decide)
  · intro notLast
    have room : timestamp.nanos.toInt ≠ 999999999 := fun same =>
      notLast (Int32.toInt_inj.mp same)
    refine ⟨⟨?_, ?_⟩, ?_, ?_⟩
    · rw [nanos]
      omega
    · rw [nanos]
      omega
    · rw [lt_iff, nanos]
      exact Or.inr ⟨rfl, Int.lt_add_one_of_le (Int.le_refl _)⟩
    · intro other _ later
      rw [← not_lt, lt_iff, nanos]
      rw [lt_iff] at later
      change ¬ (other.seconds.toInt < timestamp.seconds.toInt ∨
        (other.seconds.toInt = timestamp.seconds.toInt ∧ _))
      omega

end Timestamp

end Data

end GradidoNode
