import Mathlib.Data.List.Forall2
import WasmTyping.Proofs.AssumptionStack

/-!
# Structural compatibility is a greatest relation

The comparison of indexed references assumes every pair of indices that is under
comparison. Here its answers are described without assumptions: two types are
compatible exactly when some relation on type indices supports the pair and
every pair it relates. One such relation is a certificate that can be checked
pair by pair, however the registered types refer to each other.
-/

set_option autoImplicit false

namespace WasmTyping

theorem null_fits_iff (actual expected : Bool) :
    nullFits actual expected = true ↔ expected = true ∨ actual = false := by
  cases actual <;> cases expected <;> decide

/-- Compatibility of two types where a relation says which distinct indices are
compatible. -/
inductive LocallyCompatible (related : Nat → Nat → Prop) : ValueType → ValueType → Prop where
  | anyActual (expected : ValueType) : LocallyCompatible related .any expected
  | anyExpected (actual : ValueType) : LocallyCompatible related actual .any
  | num (type : NumType) : LocallyCompatible related (.num type) (.num type)
  | exnref : LocallyCompatible related .exnref .exnref
  | funcref {actual expected : Bool} (null : expected = true ∨ actual = false) :
      LocallyCompatible related (.funcref actual) (.funcref expected)
  | externref {actual expected : Bool} (null : expected = true ∨ actual = false) :
      LocallyCompatible related (.externref actual) (.externref expected)
  | refFuncref (index : Nat) {actual expected : Bool} (null : expected = true ∨ actual = false) :
      LocallyCompatible related (.ref index actual) (.funcref expected)
  | ref {source target : Nat} {actual expected : Bool}
      (null : expected = true ∨ actual = false) (indices : source = target ∨ related source target) :
      LocallyCompatible related (.ref source actual) (.ref target expected)

namespace LocallyCompatible

theorem mono {weaker stronger : Nat → Nat → Prop} {actual expected : ValueType}
    (implied : ∀ source target, weaker source target →
      source = target ∨ stronger source target)
    (compatible : LocallyCompatible weaker actual expected) :
    LocallyCompatible stronger actual expected := by
  cases compatible with
  | anyActual => exact .anyActual _
  | anyExpected => exact .anyExpected _
  | num => exact .num _
  | exnref => exact .exnref
  | funcref null => exact .funcref null
  | externref null => exact .externref null
  | refFuncref _ null => exact .refFuncref _ null
  | ref null indices => exact .ref null (indices.elim .inl (implied _ _))

end LocallyCompatible

/-- The computed comparison of two types, for a relation that holds of equal
indices. -/
theorem fits_iff_locally_compatible {related : Nat → Nat → Bool}
    (reflexive : ∀ index, related index index = true) (actual expected : ValueType) :
    actual.fits related expected = true ↔
      LocallyCompatible (fun source target => related source target = true) actual expected := by
  constructor
  · fun_cases ValueType.fits related actual expected with
    | case1 => exact fun _ => .anyActual _
    | case2 => exact fun _ => .anyExpected _
    | case3 =>
        intro same
        rw [beq_iff_eq.mp same]
        exact .num _
    | case4 => exact fun _ => .exnref
    | case5 => exact fun null => .funcref ((null_fits_iff _ _).mp null)
    | case6 => exact fun null => .externref ((null_fits_iff _ _).mp null)
    | case7 => exact fun null => .refFuncref _ ((null_fits_iff _ _).mp null)
    | case8 =>
        intro both
        obtain ⟨null, found⟩ := Bool.and_eq_true_iff.mp both
        exact .ref ((null_fits_iff _ _).mp null) (.inr found)
    | case9 => exact fun never => absurd never Bool.false_ne_true
  · intro compatible
    cases compatible with
    | anyActual => rfl
    | anyExpected => cases actual <;> rfl
    | num => simp [ValueType.fits]
    | exnref => rfl
    | funcref null => simpa [ValueType.fits, null_fits_iff] using null
    | externref null => simpa [ValueType.fits, null_fits_iff] using null
    | refFuncref _ null => simpa [ValueType.fits, null_fits_iff] using null
    | @ref source target _ _ null indices =>
        have found : related source target = true := by
          rcases indices with same | found
          · exact same ▸ reflexive source
          · exact found
        simpa [ValueType.fits, null_fits_iff, found] using null

theorem all_fit_iff (related : Nat → Nat → Bool) (actuals expecteds : List ValueType) :
    ValueType.allFit related actuals expecteds = true ↔
      List.Forall₂ (fun actual expected => actual.fits related expected = true)
        actuals expecteds := by
  rw [List.forall₂_iff_zip]
  simp [ValueType.allFit]

theorem all_fit_iff_locally_compatible {related : Nat → Nat → Bool}
    (reflexive : ∀ index, related index index = true) (actuals expecteds : List ValueType) :
    ValueType.allFit related actuals expecteds = true ↔
      List.Forall₂ (LocallyCompatible fun source target => related source target = true)
        actuals expecteds := by
  rw [all_fit_iff]
  constructor
  · intro pairs
    exact pairs.imp fun actual expected => (fits_iff_locally_compatible reflexive _ _).mp
  · intro pairs
    exact pairs.imp fun actual expected => (fits_iff_locally_compatible reflexive _ _).mpr

namespace Registry

/-- Two indices are registered with signatures of equal length that are
compatible pointwise under a relation. -/
def SignaturesCompatible (registry : Registry) (related : Nat → Nat → Prop)
    (source target : Nat) : Prop :=
  ∃ actual expected, registry.get? source = some actual ∧ registry.get? target = some expected ∧
    List.Forall₂ (LocallyCompatible related) actual.params expected.params ∧
    List.Forall₂ (LocallyCompatible related) actual.results expected.results

/-- A relation that supports each pair it relates. -/
def Simulation (registry : Registry) (related : Nat → Nat → Prop) : Prop :=
  ∀ source target, related source target →
    source = target ∨ registry.SignaturesCompatible related source target

theorem SignaturesCompatible.mono {registry : Registry} {weaker stronger : Nat → Nat → Prop}
    {source target : Nat}
    (implied : ∀ left right, weaker left right → left = right ∨ stronger left right)
    (compatible : registry.SignaturesCompatible weaker source target) :
    registry.SignaturesCompatible stronger source target := by
  obtain ⟨actual, expected, sourceFound, targetFound, params, results⟩ := compatible
  exact ⟨actual, expected, sourceFound, targetFound,
    params.imp fun _ _ pair => pair.mono implied, results.imp fun _ _ pair => pair.mono implied⟩

theorem index_fits_self (registry : Registry) (assumed : List (Nat × Nat)) (index : Nat) :
    registry.indexFits assumed index index = true := by
  rw [indexFits, if_pos rfl]

theorem index_fits_of_assumed {registry : Registry} {assumed : List (Nat × Nat)}
    {source target : Nat} (member : (source, target) ∈ assumed) :
    registry.indexFits assumed source target = true := by
  by_cases same : source = target
  · rw [indexFits, if_pos same]
  · rw [indexFits, if_neg same, dif_pos member]

/-- A pair that is neither trivial nor assumed is decided by its signatures,
under the assumption of the pair itself. -/
theorem index_fits_fresh_iff {registry : Registry} {assumed : List (Nat × Nat)}
    {source target : Nat} (distinct : source ≠ target) (fresh : (source, target) ∉ assumed) :
    registry.indexFits assumed source target = true ↔
      registry.SignaturesCompatible
        (fun left right => registry.indexFits ((source, target) :: assumed) left right = true)
        source target := by
  have reflexive := registry.index_fits_self ((source, target) :: assumed)
  rw [index_fits_of_fresh distinct fresh]
  unfold SignaturesCompatible
  rcases registry.get? source with _ | actual
  · simp
  rcases registry.get? target with _ | expected
  · simp
  simp only [Bool.and_eq_true, all_fit_iff_locally_compatible reflexive, Option.some.injEq]
  constructor
  · rintro ⟨params, results⟩
    exact ⟨actual, expected, rfl, rfl, params, results⟩
  · rintro ⟨_, _, rfl, rfl, params, results⟩
    exact ⟨params, results⟩

/-! ## A certificate is found by the comparison -/

/-- A relation each of whose pairs is supported by the relation together with
assumed pairs. -/
def SimulationUpTo (registry : Registry) (assumed : List (Nat × Nat))
    (related : Nat → Nat → Prop) : Prop :=
  ∀ source target, related source target →
    registry.SignaturesCompatible
      (fun left right => related left right ∨ (left, right) ∈ assumed) source target

/-- The pairs of indices that some relation supports up to assumed pairs. -/
def SupportedUpTo (registry : Registry) (assumed : List (Nat × Nat)) (source target : Nat) : Prop :=
  ∃ related, registry.SimulationUpTo assumed related ∧ related source target

theorem supported_up_to_is_simulation (registry : Registry) (assumed : List (Nat × Nat)) :
    registry.SimulationUpTo assumed (registry.SupportedUpTo assumed) := by
  rintro source target ⟨related, simulation, pair⟩
  refine (simulation source target pair).mono fun left right supported => .inr ?_
  exact supported.imp_left fun inner => ⟨related, simulation, inner⟩

/-- An assumption may be discharged by the pair whose signatures rest on it. -/
theorem supported_up_to_of_signatures {registry : Registry} {assumed : List (Nat × Nat)}
    {source target : Nat}
    (signatures : registry.SignaturesCompatible
      (fun left right => registry.SupportedUpTo ((source, target) :: assumed) left right ∨
        (left, right) ∈ (source, target) :: assumed) source target) :
    registry.SupportedUpTo assumed source target := by
  let extended : Nat → Nat → Prop := fun left right =>
    registry.SupportedUpTo ((source, target) :: assumed) left right ∨
      (left, right) = (source, target)
  have covered : ∀ left right,
      registry.SupportedUpTo ((source, target) :: assumed) left right ∨
        (left, right) ∈ (source, target) :: assumed →
      left = right ∨ extended left right ∨ (left, right) ∈ assumed := by
    intro left right supported
    rcases supported with supported | member
    · exact .inr (.inl (.inl supported))
    · rcases List.mem_cons.mp member with same | member
      · exact .inr (.inl (.inr same))
      · exact .inr (.inr member)
  refine ⟨extended, ?_, .inr rfl⟩
  rintro left right (supported | same)
  · exact (supported_up_to_is_simulation registry _ left right supported).mono covered
  · obtain ⟨rfl, rfl⟩ := Prod.mk.inj same
    exact signatures.mono covered

/-- Every positive answer has a certificate, up to what was assumed for it. The
induction is on the pairs that are not assumed yet. -/
theorem index_fits_sound {registry : Registry} {assumed : List (Nat × Nat)} {source target : Nat}
    (fits : registry.indexFits assumed source target = true) :
    source = target ∨ registry.SupportedUpTo assumed source target ∨
      (source, target) ∈ assumed := by
  by_cases same : source = target
  · exact .inl same
  by_cases member : (source, target) ∈ assumed
  · exact .inr (.inr member)
  have signatures := (index_fits_fresh_iff same member).mp fits
  have smaller : (registry.unassumed ((source, target) :: assumed)).length <
      (registry.unassumed assumed).length := by
    obtain ⟨actual, expected, sourceFound, targetFound, -⟩ := signatures
    exact length_unassumed_cons_lt member sourceFound targetFound
  refine .inr (.inl (supported_up_to_of_signatures ?_))
  exact signatures.mono fun left right inner => index_fits_sound inner
termination_by (registry.unassumed assumed).length

/-! ## A certificate is enough for the comparison -/

/-- A simulation forces a positive answer whatever is assumed. The induction is on
the pairs that are not assumed yet. -/
theorem index_fits_complete {registry : Registry} {related : Nat → Nat → Prop}
    (simulation : registry.Simulation related) {assumed : List (Nat × Nat)} {source target : Nat}
    (pair : source = target ∨ related source target) :
    registry.indexFits assumed source target = true := by
  by_cases same : source = target
  · exact same ▸ registry.index_fits_self assumed source
  by_cases member : (source, target) ∈ assumed
  · exact index_fits_of_assumed member
  have supported : registry.SignaturesCompatible related source target :=
    (simulation source target (pair.resolve_left same)).resolve_left same
  have smaller : (registry.unassumed ((source, target) :: assumed)).length <
      (registry.unassumed assumed).length := by
    obtain ⟨actual, expected, sourceFound, targetFound, -⟩ := supported
    exact length_unassumed_cons_lt member sourceFound targetFound
  rw [index_fits_fresh_iff same member]
  exact supported.mono fun left right inner => .inr (index_fits_complete simulation (.inr inner))
termination_by (registry.unassumed assumed).length

theorem index_fits_nil_iff (registry : Registry) (source target : Nat) :
    registry.indexFits [] source target = true ↔
      source = target ∨ ∃ related, registry.Simulation related ∧ related source target := by
  constructor
  · intro fits
    rcases index_fits_sound fits with same | ⟨related, simulation, pair⟩ | impossible
    · exact .inl same
    · refine .inr ⟨related, fun left right inner => .inr ?_, pair⟩
      refine (simulation left right inner).mono fun _ _ supported => .inr ?_
      exact supported.resolve_right List.not_mem_nil
    · exact absurd impossible List.not_mem_nil
  · rintro (same | ⟨related, simulation, pair⟩)
    · exact same ▸ registry.index_fits_self [] source
    · exact index_fits_complete simulation (.inr pair)

/-! ## Compatibility without assumptions -/

/-- The union of all simulations is a simulation, so one certificate serves for
all positive answers. -/
theorem index_fits_simulation (registry : Registry) :
    registry.Simulation fun source target => registry.indexFits [] source target = true := by
  intro source target fits
  rcases (registry.index_fits_nil_iff source target).mp fits with same | ⟨related, simulation, pair⟩
  · exact .inl same
  · refine (simulation source target pair).imp_right fun signatures => ?_
    exact signatures.mono fun left right inner =>
      .inr (index_fits_complete simulation (.inr inner))

theorem compatible_iff_exists_simulation (registry : Registry) (actual expected : ValueType) :
    registry.compatible actual expected = true ↔
      ∃ related : Nat → Nat → Prop,
        LocallyCompatible related actual expected ∧ registry.Simulation related := by
  unfold compatible
  rw [fits_iff_locally_compatible (registry.index_fits_self [])]
  constructor
  · intro compatible
    exact ⟨_, compatible, registry.index_fits_simulation⟩
  · rintro ⟨related, compatible, simulation⟩
    exact compatible.mono fun source target pair =>
      .inr (index_fits_complete simulation (.inr pair))

theorem all_compatible_iff (registry : Registry) (actuals expecteds : List ValueType) :
    registry.allCompatible actuals expecteds = true ↔
      List.Forall₂ (fun actual expected => registry.compatible actual expected = true)
        actuals expecteds :=
  all_fit_iff (registry.indexFits []) actuals expecteds

/-- Compatibility is the greatest relation that agrees with the signatures of the
registry. Each comparison ends with the assumption stack it started from, so the
entries of two sequences are compared each on its own. -/
theorem compatibility_is_coinductive (registry : Registry) :
    (∀ actual expected, registry.compatible actual expected = true ↔
      ∃ related : Nat → Nat → Prop,
        LocallyCompatible related actual expected ∧ registry.Simulation related) ∧
    (∀ actuals expecteds, registry.allCompatible actuals expecteds = true ↔
      actuals.length = expecteds.length ∧
        ∀ pair ∈ actuals.zip expecteds, registry.compatible pair.1 pair.2 = true) ∧
    (∀ actual expected,
      (registry.compareTypes actual expected).1 = (registry.compatible actual expected, [])) ∧
    ∀ actuals expecteds,
      (registry.compareSequences actuals expecteds).1 =
        (registry.allCompatible actuals expecteds, []) := by
  refine ⟨registry.compatible_iff_exists_simulation, ?_, registry.compare_types_eq,
    registry.compare_sequences_eq⟩
  intro actuals expecteds
  rw [registry.all_compatible_iff, List.forall₂_iff_zip]
  refine and_congr_right fun _ => ?_
  exact ⟨fun each pair member => each member, fun each actual expected member => each _ member⟩

end Registry

end WasmTyping
