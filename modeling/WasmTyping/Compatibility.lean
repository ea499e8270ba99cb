import WasmTyping.Registry

/-!
# Structural compatibility

Whether a value of one type may be used where another is expected. References to
registered function types are compared by structure. Since types may refer to
themselves through the registry, a pair of indices under comparison counts as
compatible while its own signatures are compared.

The comparison ends because every nested comparison assumes one more pair of
registered indices.
-/

set_option autoImplicit false

namespace WasmTyping

/-- Null flows only into a type that admits null. -/
def nullFits (actual expected : Bool) : Bool :=
  expected || !actual

/-- Compatibility of two types, given which pairs of type indices are
compatible. -/
def ValueType.fits (related : Nat → Nat → Bool) : ValueType → ValueType → Bool
  | .any, _ => true
  | _, .any => true
  | .num actual, .num expected => actual == expected
  | .exnref, .exnref => true
  | .funcref actual, .funcref expected => nullFits actual expected
  | .externref actual, .externref expected => nullFits actual expected
  | .ref _ actual, .funcref expected => nullFits actual expected
  | .ref source actual, .ref target expected => nullFits actual expected && related source target
  | _, _ => false

/-- Pointwise compatibility of sequences of equal length. -/
def ValueType.allFit (related : Nat → Nat → Bool) (actuals expecteds : List ValueType) : Bool :=
  actuals.length == expecteds.length &&
    (actuals.zip expecteds).all fun pair => pair.1.fits related pair.2

namespace Registry

/-- Every pair of registered indices. -/
def indexPairs (registry : Registry) : List (Nat × Nat) :=
  registry.indices.flatMap fun source => registry.indices.map fun target => (source, target)

/-- The pairs of registered indices that are not assumed yet. -/
def unassumed (registry : Registry) (assumed : List (Nat × Nat)) : List (Nat × Nat) :=
  registry.indexPairs.filter fun pair => decide (pair ∉ assumed)

theorem length_unassumed_cons_lt {registry : Registry} {assumed : List (Nat × Nat)}
    {source target : Nat} {actual expected : FuncType}
    (fresh : (source, target) ∉ assumed)
    (sourceFound : registry.get? source = some actual)
    (targetFound : registry.get? target = some expected) :
    (registry.unassumed ((source, target) :: assumed)).length <
      (registry.unassumed assumed).length := by
  have pairMember : (source, target) ∈ registry.unassumed assumed := by
    simp only [unassumed, indexPairs, List.mem_filter, List.mem_flatMap, List.mem_map]
    exact ⟨⟨source, mem_indices_of_get? sourceFound, target,
      mem_indices_of_get? targetFound, rfl⟩, by simpa using fresh⟩
  have split : registry.unassumed ((source, target) :: assumed) =
      (registry.unassumed assumed).filter fun pair => decide (pair ≠ (source, target)) := by
    simp only [unassumed, List.filter_filter]
    congr 1
    funext pair
    simp
  rw [split]
  exact List.length_filter_lt_length_iff_exists.mpr
    ⟨(source, target), pairMember, by simp⟩

/-- Compatibility of two type indices under assumed pairs: equal, assumed, or
both registered with compatible parameters and results under the assumption of
this pair. -/
def indexFits (registry : Registry) (assumed : List (Nat × Nat)) (source target : Nat) : Bool :=
  if source = target then true
  else if fresh : (source, target) ∈ assumed then true
  else
    match sourceFound : registry.get? source, targetFound : registry.get? target with
    | some actual, some expected =>
      have := length_unassumed_cons_lt fresh sourceFound targetFound
      let related := fun left right => indexFits registry ((source, target) :: assumed) left right
      ValueType.allFit related actual.params expected.params &&
        ValueType.allFit related actual.results expected.results
    | _, _ => false
termination_by (registry.unassumed assumed).length

/-- Whether a value of type `actual` may be used where `expected` is required. -/
def compatible (registry : Registry) (actual expected : ValueType) : Bool :=
  actual.fits (registry.indexFits []) expected

/-- Whether two sequences have equal length and are compatible pointwise. -/
def allCompatible (registry : Registry) (actual expected : List ValueType) : Bool :=
  ValueType.allFit (registry.indexFits []) actual expected

end Registry

end WasmTyping
