import Mathlib.Data.List.Forall2
import Mathlib.Tactic.Common

/-!
# Mapping a fallible function over a list

The map succeeds with the results of the elements, and fails exactly when one of
the elements does.
-/

namespace GradidoNode

namespace Library

variable {Error Source Target : Type} {function : Source → Except Error Target}

theorem mapM_cons_ok {head : Source} {tail : List Source} {results : List Target} :
    (head :: tail).mapM function = .ok results ↔
      ∃ first rest, function head = .ok first ∧ tail.mapM function = .ok rest ∧
        results = first :: rest := by
  rw [List.mapM_cons]
  cases function head with
  | error error => simp [bind, Except.bind]
  | ok first =>
      cases tail.mapM function with
      | error error => simp [bind, Except.bind]
      | ok rest => simp [bind, Except.bind, pure, Except.pure, eq_comm]

/-- A successful map relates the elements to their results one by one. -/
theorem mapM_ok_iff {source : List Source} {results : List Target} :
    source.mapM function = .ok results ↔
      List.Forall₂ (fun element result => function element = .ok result) source results := by
  induction source generalizing results with
  | nil =>
      rw [List.mapM_nil]
      cases results with
      | nil => simp [pure, Except.pure]
      | cons first rest => simp [pure, Except.pure]
  | cons head tail ih =>
      rw [mapM_cons_ok]
      constructor
      · rintro ⟨first, rest, headOk, tailOk, rfl⟩
        exact List.Forall₂.cons headOk (ih.mp tailOk)
      · intro related
        cases related with
        | cons headOk tailOk => exact ⟨_, _, headOk, ih.mpr tailOk, rfl⟩

/-- Where no element fails, the map is the one of the results. -/
theorem mapM_eq_ok_map {source : List Source} {result : Source → Target}
    (all : ∀ element ∈ source, function element = .ok (result element)) :
    source.mapM function = .ok (source.map result) :=
  Iff.mpr mapM_ok_iff (List.forall₂_map_right_iff.mpr (List.forall₂_same.mpr all))

theorem mapM_ok_of_forall {source : List Source}
    (all : ∀ element ∈ source, ∃ result, function element = .ok result) :
    ∃ results, source.mapM function = .ok results := by
  induction source with
  | nil => exact ⟨[], rfl⟩
  | cons head tail ih =>
      obtain ⟨first, headOk⟩ := all head (List.mem_cons_self ..)
      obtain ⟨rest, tailOk⟩ := ih fun element member => all element (List.mem_cons_of_mem _ member)
      exact ⟨first :: rest, Iff.mpr mapM_cons_ok ⟨first, rest, headOk, tailOk, rfl⟩⟩

theorem ok_of_mapM_ok {source : List Source} {results : List Target}
    (success : source.mapM function = .ok results) :
    ∀ element ∈ source, ∃ result, function element = .ok result := by
  intro element member
  induction source generalizing results with
  | nil => cases member
  | cons head tail ih =>
      obtain ⟨first, rest, headOk, tailOk, _⟩ := Iff.mp mapM_cons_ok success
      rcases List.mem_cons.mp member with rfl | inTail
      · exact ⟨first, headOk⟩
      · exact ih tailOk inTail

theorem exists_mapM_ok_iff {source : List Source} :
    (∃ results, source.mapM function = .ok results) ↔
      ∀ element ∈ source, ∃ result, function element = .ok result :=
  ⟨fun ⟨_, success⟩ => ok_of_mapM_ok success, mapM_ok_of_forall⟩

/-- Every result of a successful map comes from an element. -/
theorem exists_of_mem_mapM_ok {source : List Source} {results : List Target} {result : Target}
    (success : source.mapM function = .ok results) (member : result ∈ results) :
    ∃ element ∈ source, function element = .ok result := by
  induction source generalizing results with
  | nil =>
      rw [List.mapM_nil] at success
      cases success
      cases member
  | cons head tail ih =>
      obtain ⟨first, rest, headOk, tailOk, rfl⟩ := Iff.mp mapM_cons_ok success
      rcases List.mem_cons.mp member with rfl | inRest
      · exact ⟨head, List.mem_cons_self .., headOk⟩
      · obtain ⟨element, inTail, elementOk⟩ := ih tailOk inRest
        exact ⟨element, List.mem_cons_of_mem _ inTail, elementOk⟩

theorem bind_ok_iff {Result : Type} {computation : Except Error Source}
    {continuation : Source → Except Error Result} {result : Result} :
    (computation >>= continuation) = Except.ok result ↔
      ∃ value, computation = .ok value ∧ continuation value = .ok result := by
  cases computation with
  | error error => simp [bind, Except.bind]
  | ok value => simp [bind, Except.bind]

theorem bind_pure_ok_iff {Result : Type} {computation : Except Error Source}
    {finish : Source → Result} {result : Result} :
    (do let value ← computation; return finish value) = Except.ok result ↔
      ∃ value, computation = .ok value ∧ finish value = result := by
  cases computation with
  | error error => simp [bind, Except.bind]
  | ok value => simp [bind, Except.bind, pure, Except.pure]

/-- Post-processing with a total function changes nothing about success. -/
theorem exists_bind_pure_ok_iff {Result : Type} {computation : Except Error Source}
    {finish : Source → Result} :
    (∃ result, (do let value ← computation; return finish value) = Except.ok result) ↔
      ∃ value, computation = .ok value := by
  cases computation with
  | error error => simp [bind, Except.bind]
  | ok value => simp [bind, Except.bind, pure, Except.pure]

end Library

end GradidoNode
