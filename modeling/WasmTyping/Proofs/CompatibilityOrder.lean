import Mathlib.Logic.Relation
import WasmTyping.Proofs.StructuralCompatibility
import WasmTyping.Proofs.UnknownOperands

/-!
# Compatibility is a preorder

Every type is compatible with itself. Two compatible pairs with a type in common chain,
unless that type is unknown: `any` is compatible with everything in both positions, so
it joins types that have nothing to do with each other. On a registry that does not
mention `any`, the pairs of indices that are joined by a third index support each other,
so compatibility chains through recursive types as well.
-/

set_option autoImplicit false

namespace WasmTyping

theorem null_fits_trans {actual middle expected : Bool} (left : middle = true ∨ actual = false)
    (right : expected = true ∨ middle = false) : expected = true ∨ actual = false := by
  rcases right with admitted | refused
  · exact .inl admitted
  · exact .inr (left.resolve_left (by simp [refused]))

section Chains

variable {related : Nat → Nat → Prop} (reflexive : ∀ index, related index index)

include reflexive

/-- Compatible pairs chain through a known type. -/
theorem LocallyCompatible.trans {actual middle expected : ValueType} (known : middle ≠ .any)
    (left : LocallyCompatible related actual middle)
    (right : LocallyCompatible related middle expected) :
    LocallyCompatible (Relation.Comp related related) actual expected := by
  have joined : ∀ {source target : Nat}, source = target ∨ related source target →
      related source target := by
    rintro source target (rfl | pair)
    · exact reflexive source
    · exact pair
  cases left with
  | anyActual => exact .anyActual _
  | anyExpected => exact absurd rfl known
  | num type =>
      cases right with
      | anyExpected => exact .anyExpected _
      | num => exact .num type
  | exnref =>
      cases right with
      | anyExpected => exact .anyExpected _
      | exnref => exact .exnref
  | funcref null =>
      cases right with
      | anyExpected => exact .anyExpected _
      | funcref null' => exact .funcref (null_fits_trans null null')
  | externref null =>
      cases right with
      | anyExpected => exact .anyExpected _
      | externref null' => exact .externref (null_fits_trans null null')
  | refFuncref index null =>
      cases right with
      | anyExpected => exact .anyExpected _
      | funcref null' => exact .refFuncref index (null_fits_trans null null')
  | ref null indices =>
      cases right with
      | anyExpected => exact .anyExpected _
      | refFuncref _ null' => exact .refFuncref _ (null_fits_trans null null')
      | ref null' indices' =>
          exact .ref (null_fits_trans null null') (.inr ⟨_, joined indices, joined indices'⟩)

theorem locally_compatible_lists_trans {actuals middles expecteds : List ValueType}
    (known : .any ∉ middles) (left : List.Forall₂ (LocallyCompatible related) actuals middles)
    (right : List.Forall₂ (LocallyCompatible related) middles expecteds) :
    List.Forall₂ (LocallyCompatible (Relation.Comp related related)) actuals expecteds := by
  induction left generalizing expecteds with
  | nil =>
      cases right
      exact .nil
  | cons here _ ih =>
      cases right with
      | cons here' rest' =>
          obtain ⟨head, tail⟩ := List.ne_and_not_mem_of_not_mem_cons known
          exact .cons (here.trans reflexive head.symm here') (ih tail rest')

namespace Registry

variable {registry : Registry}

/-- Signatures chain through a registered type that does not mention `any`. -/
theorem SignaturesCompatible.trans (concrete : registry.IsConcrete) {source middle target : Nat}
    (left : registry.SignaturesCompatible related source middle)
    (right : registry.SignaturesCompatible related middle target) :
    registry.SignaturesCompatible (Relation.Comp related related) source target := by
  obtain ⟨actual, between, sourceFound, middleFound, params, results⟩ := left
  obtain ⟨between', expected, middleFound', targetFound, params', results'⟩ := right
  cases middleFound.symm.trans middleFound'
  obtain ⟨knownParams, knownResults⟩ := concrete middle between middleFound
  exact ⟨actual, expected, sourceFound, targetFound,
    locally_compatible_lists_trans reflexive knownParams params params',
    locally_compatible_lists_trans reflexive knownResults results results'⟩

/-- Simulations compose. -/
theorem Simulation.comp (concrete : registry.IsConcrete)
    (simulation : registry.Simulation related) :
    registry.Simulation (Relation.Comp related related) := by
  have direct : ∀ left right, related left right →
      left = right ∨ Relation.Comp related related left right :=
    fun left right pair => .inr ⟨left, reflexive left, pair⟩
  rintro source target ⟨middle, first, second⟩
  rcases simulation source middle first with rfl | left
  · exact (simulation source target second).imp_right (·.mono direct)
  · rcases simulation middle target second with rfl | right
    · exact .inr (left.mono direct)
    · exact .inr (left.trans reflexive concrete right)

end Registry

end Chains

namespace Registry

theorem compatible_refl (registry : Registry) (type : ValueType) :
    registry.compatible type type = true := by
  rw [compatible, fits_iff_locally_compatible (registry.index_fits_self [])]
  cases type with
  | num type => exact .num type
  | funcref nullable => exact .funcref (by cases nullable <;> decide)
  | externref nullable => exact .externref (by cases nullable <;> decide)
  | exnref => exact .exnref
  | ref index nullable => exact .ref (by cases nullable <;> decide) (.inl rfl)
  | any => exact .anyActual _

theorem all_compatible_refl (registry : Registry) (types : List ValueType) :
    registry.allCompatible types types = true :=
  (registry.all_compatible_iff types types).mpr
    (List.forall₂_same.mpr fun type _ => registry.compatible_refl type)

/-- What is compatible through a known type is compatible. -/
theorem IsConcrete.compatible_trans {registry : Registry} (concrete : registry.IsConcrete)
    {actual middle expected : ValueType} (known : middle ≠ .any)
    (left : registry.compatible actual middle = true)
    (right : registry.compatible middle expected = true) :
    registry.compatible actual expected = true := by
  have reflexive := registry.index_fits_self []
  rw [compatible, fits_iff_locally_compatible reflexive] at left right
  rw [compatible_iff_exists_simulation]
  exact ⟨_, left.trans reflexive known right,
    Simulation.comp reflexive concrete registry.index_fits_simulation⟩

/-- Compatibility is reflexive, and transitive where neither the registered types nor the
type in the middle is unknown. -/
theorem compatibility_is_a_preorder (registry : Registry) :
    (∀ type, registry.compatible type type = true) ∧
    (registry.IsConcrete → ∀ actual middle expected, middle ≠ .any →
      registry.compatible actual middle = true → registry.compatible middle expected = true →
        registry.compatible actual expected = true) :=
  ⟨registry.compatible_refl, fun concrete _ _ _ known left right =>
    concrete.compatible_trans known left right⟩

/-- Three types that refer to themselves and to an index that is not registered. -/
theorem recursive_references_chain :
    let registry :=
      ((Registry.empty.insert 0 ⟨[.ref 0 true], [.ref 7 false]⟩).insert 1
        ⟨[.ref 1 true], [.ref 7 false]⟩).insert 2 ⟨[.ref 2 true], [.ref 7 true]⟩
    registry.compatible (.ref 0 false) (.ref 1 false) = true ∧
      registry.compatible (.ref 1 false) (.ref 2 true) = true ∧
      registry.compatible (.ref 0 false) (.ref 2 true) = true := by
  intro registry
  have concrete : registry.IsConcrete :=
    ((Registry.empty_concrete.insert 0 (by decide)).insert 1 (by decide)).insert 2 (by decide)
  have simulation : registry.Simulation fun source target =>
      source = 0 ∧ target = 1 ∨ source = 1 ∧ target = 2 := by
    rintro _ _ (⟨rfl, rfl⟩ | ⟨rfl, rfl⟩)
    · exact .inr ⟨_, _, rfl, rfl, .cons (.ref (.inl rfl) (.inr (.inl ⟨rfl, rfl⟩))) .nil,
        .cons (.ref (.inr rfl) (.inl rfl)) .nil⟩
    · exact .inr ⟨_, _, rfl, rfl, .cons (.ref (.inl rfl) (.inr (.inr ⟨rfl, rfl⟩))) .nil,
        .cons (.ref (.inr rfl) (.inl rfl)) .nil⟩
  have left : registry.compatible (.ref 0 false) (.ref 1 false) = true :=
    (registry.compatible_iff_exists_simulation _ _).mpr
      ⟨_, .ref (.inr rfl) (.inr (.inl ⟨rfl, rfl⟩)), simulation⟩
  have right : registry.compatible (.ref 1 false) (.ref 2 true) = true :=
    (registry.compatible_iff_exists_simulation _ _).mpr
      ⟨_, .ref (.inl rfl) (.inr (.inr ⟨rfl, rfl⟩)), simulation⟩
  exact ⟨left, right,
    (compatibility_is_a_preorder registry).2 concrete _ _ _ (by decide) left right⟩

end Registry

end WasmTyping
