import Mathlib.Data.Fintype.Card
import Mathlib.Data.Set.Finite.List
import Mathlib.Logic.Relation
import Mathlib.Order.WellFounded

/-!
# Waiting in circles

A relation says who waits for whom. A circle of it is a finite set in which everybody waits for
somebody of the set.
-/

namespace GradidoNode

namespace Library

open Relation

variable {Party : Type*} {waits : Party → Party → Prop}

/-- A path goes from each of finitely many parties to another of them, or to its end. -/
theorem exists_parties_of_transGen {first last : Party} (path : TransGen waits first last) :
    ∃ parties : List Party, first ∈ parties ∧
      ∀ party ∈ parties, ∃ other, waits party other ∧ (other ∈ parties ∨ other = last) := by
  induction path using TransGen.head_induction_on with
  | single step =>
      refine ⟨[_], List.mem_singleton_self _, fun party member => ?_⟩
      rw [List.mem_singleton.mp member]
      exact ⟨last, step, Or.inr rfl⟩
  | head step _ ih =>
      obtain ⟨parties, member, closed⟩ := ih
      refine ⟨_ :: parties, List.mem_cons_self .., fun party inParties => ?_⟩
      rcases List.mem_cons.mp inParties with rfl | later
      · exact ⟨_, step, Or.inl (List.mem_cons_of_mem _ member)⟩
      · obtain ⟨other, waitsFor, inside⟩ := closed party later
        exact ⟨other, waitsFor, inside.imp_left (List.mem_cons_of_mem _)⟩

/-- In a circle each of finitely many parties waits for another of them. -/
theorem exists_parties_of_circle {party : Party} (circle : TransGen waits party party) :
    ∃ parties : List Party, parties ≠ [] ∧
      ∀ party ∈ parties, ∃ other ∈ parties, waits party other := by
  obtain ⟨parties, member, closed⟩ := exists_parties_of_transGen circle
  refine ⟨parties, List.ne_nil_of_mem member, fun first inParties => ?_⟩
  obtain ⟨other, waitsFor, inside⟩ := closed first inParties
  refine ⟨other, inside.elim id fun isLast => isLast ▸ member, waitsFor⟩

/-- Where each of finitely many parties waits for another of them, there is a circle. -/
theorem exists_circle_of_parties {parties : List Party} (some : parties ≠ [])
    (closed : ∀ party ∈ parties, ∃ other ∈ parties, waits party other) :
    ∃ party, TransGen waits party party := by
  by_contra none
  have acyclic (party : Party) : ¬ TransGen waits party party := fun circle => none ⟨party, circle⟩
  have isTrans : IsTrans { party // party ∈ parties } fun first second =>
      TransGen waits second.1 first.1 := ⟨fun _ _ _ below after => after.trans below⟩
  have irreflexive : Std.Irrefl fun first second : { party // party ∈ parties } =>
      TransGen waits second.1 first.1 := ⟨fun party => acyclic party.1⟩
  have finite : Finite { party // party ∈ parties } := (List.finite_toSet parties).to_subtype
  have wellFounded := Finite.wellFounded_of_trans_of_irrefl
    fun first second : { party // party ∈ parties } => TransGen waits second.1 first.1
  obtain ⟨first, member⟩ := List.exists_mem_of_ne_nil parties some
  obtain ⟨last, _, isLast⟩ := wellFounded.has_min Set.univ ⟨⟨first, member⟩, trivial⟩
  obtain ⟨other, inParties, waitsFor⟩ := closed last.1 last.2
  exact isLast ⟨other, inParties⟩ trivial (TransGen.single waitsFor)

end Library

end GradidoNode
