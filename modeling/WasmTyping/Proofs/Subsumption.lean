import WasmTyping.Proofs.CompatibilityOrder
import WasmTyping.Proofs.Relaxation

/-!
# Subsumption

An operand may be exchanged for one of a compatible type. Whatever the checker accepts
with the operands it has, it accepts with the exchanged ones, and the operands that it
leaves are exchanged in the same way: what it pushes is fixed, or computed from an
operand by an operation that respects compatibility.
-/

set_option autoImplicit false

namespace WasmTyping

/-! ## Exchanged operands -/

/-- Compatibility survives when null is excluded on both sides. -/
theorem LocallyCompatible.as_non_null {related : Nat → Nat → Prop} {actual expected : ValueType}
    (compatible : LocallyCompatible related actual expected) :
    LocallyCompatible related actual.asNonNull expected.asNonNull := by
  cases compatible with
  | anyActual => exact .anyActual _
  | anyExpected => exact .anyExpected _
  | num type => exact .num type
  | exnref => exact .exnref
  | funcref => exact .funcref (.inr rfl)
  | externref => exact .externref (.inr rfl)
  | refFuncref index => exact .refFuncref index (.inr rfl)
  | ref _ indices => exact .ref (.inr rfl) indices

/-- Known types that are compatible are both references, or they are the same type. -/
theorem LocallyCompatible.references_or_eq {related : Nat → Nat → Prop}
    {actual expected : ValueType} (knownActual : actual ≠ .any) (knownExpected : expected ≠ .any)
    (compatible : LocallyCompatible related actual expected) :
    actual.isReference = true ∧ expected.isReference = true ∨ actual = expected := by
  cases compatible with
  | anyActual => exact absurd rfl knownActual
  | anyExpected => exact absurd rfl knownExpected
  | num type => exact .inr rfl
  | exnref => exact .inr rfl
  | funcref => exact .inl ⟨rfl, rfl⟩
  | externref => exact .inl ⟨rfl, rfl⟩
  | refFuncref => exact .inl ⟨rfl, rfl⟩
  | ref => exact .inl ⟨rfl, rfl⟩

/-- The second type is the first one, or both are known and it is compatible with the
first. -/
def Registry.Refines (types : Registry) (type found : ValueType) : Prop :=
  found = type ∨ type ≠ .any ∧ found ≠ .any ∧ types.compatible found type = true

namespace Registry.Refines

variable {types : Registry} {type found : ValueType}

theorem refl (types : Registry) (type : ValueType) : types.Refines type type :=
  .inl rfl

theorem as_non_null (refines : types.Refines type found) :
    types.Refines type.asNonNull found.asNonNull := by
  rcases refines with rfl | ⟨known, knownFound, fits⟩
  · exact .refl _ _
  · refine .inr ⟨ValueType.with_nullable_known known false,
      ValueType.with_nullable_known knownFound false, ?_⟩
    rw [compatible, fits_iff_locally_compatible (types.index_fits_self [])] at fits ⊢
    exact fits.as_non_null

theorem compatible (concrete : types.IsConcrete) (refines : types.Refines type found)
    {expected : ValueType} (fits : types.compatible type expected = true) :
    types.compatible found expected = true := by
  rcases refines with rfl | ⟨known, -, exchanged⟩
  · exact fits
  · exact concrete.compatible_trans known exchanged fits

theorem references_or_eq (refines : types.Refines type found) :
    found.isReference = true ∧ type.isReference = true ∨ found = type := by
  rcases refines with rfl | ⟨known, knownFound, fits⟩
  · exact .inr rfl
  · rw [Registry.compatible, fits_iff_locally_compatible (types.index_fits_self [])] at fits
    exact fits.references_or_eq knownFound known

/-- Only references are exchanged. -/
theorem eq_of_no_reference (refines : types.Refines type found)
    (plain : type.isReference = false) : found = type := by
  refine refines.references_or_eq.resolve_left ?_
  rintro ⟨-, reference⟩
  simp [plain] at reference

theorem accepted_reference (refines : types.Refines type found)
    (allowed : (type = .any || type.isReference) = true) :
    (found = .any || found.isReference) = true := by
  rcases refines.references_or_eq with ⟨reference, -⟩ | rfl
  · simp [reference]
  · exact allowed

end Registry.Refines

/-! ## States with exchanged operands -/

/-- The two states differ at most in their operands, which are as many and refine those
of the first state one by one. -/
structure State.Refines (types : Registry) (state refined : State) : Prop where
  labels : refined.labels = state.labels
  tableTypes : refined.tableTypes = state.tableTypes
  operands : List.Forall₂ types.Refines state.operands refined.operands

theorem forall₂_get? {α β : Type} {relation : α → β → Prop} {left : List α} {right : List β}
    (pairs : List.Forall₂ relation left right) {index : Nat} {value : α}
    (found : left[index]? = some value) :
    ∃ value', right[index]? = some value' ∧ relation value value' := by
  obtain ⟨bound, rfl⟩ := List.getElem?_eq_some_iff.mp found
  have bound' : index < right.length := pairs.length_eq ▸ bound
  exact ⟨_, List.getElem?_eq_getElem bound', pairs.get bound bound'⟩

namespace State.Refines

variable {types : Registry} {state refined : State} (refines : state.Refines types refined)

include refines

theorem limit : refined.limit = state.limit := by
  unfold State.limit
  rw [refines.labels]

theorem height : refined.operands.length = state.operands.length :=
  refines.operands.length_eq.symm

theorem region : List.Forall₂ types.Refines state.region refined.region := by
  unfold State.region
  rw [refines.limit]
  exact List.forall₂_drop _ refines.operands

theorem peek {depth : Nat} {type : ValueType} (seen : state.peek depth = .ok type) :
    ∃ found, refined.peek depth = .ok found ∧ types.Refines type found := by
  unfold State.peek at seen ⊢
  rw [refines.labels]
  rcases opened : state.labels with _ | ⟨label, outer⟩
  · simp [opened] at seen
  · have reversed := List.forall₂_reverse_iff.mpr refines.region
    simp only [opened] at seen ⊢
    cases here : state.region.reverse[depth]? with
    | some type' =>
        obtain ⟨found, there, related⟩ := forall₂_get? reversed here
        rw [here] at seen
        cases seen
        exact ⟨found, by rw [there], related⟩
    | none =>
        have missing : refined.region.reverse[depth]? = none := by
          rw [List.getElem?_eq_none_iff, ← reversed.length_eq]
          exact List.getElem?_eq_none_iff.mp here
        rw [here] at seen
        rw [missing]
        exact ⟨type, seen, .refl types type⟩

theorem empty_region (empty : emptyVerdict state = .ok ()) : emptyVerdict refined = .ok () := by
  unfold emptyVerdict at empty ⊢
  rw [refines.limit, refines.height]
  exact empty

theorem push {pushed found : List ValueType} (related : List.Forall₂ types.Refines pushed found) :
    (state.push pushed).Refines types (refined.push found) where
  labels := refines.labels
  tableTypes := refines.tableTypes
  operands := List.rel_append refines.operands related

theorem push_same (pushed : List ValueType) :
    (state.push pushed).Refines types (refined.push pushed) :=
  refines.push (List.forall₂_same.mpr fun type _ => .refl types type)

/-- Both stacks may be cut at the same height, and the labels changed in the same way. -/
theorem cut (height : Nat) (labels : List Label) :
    State.Refines types { state with operands := state.operands.take height, labels := labels }
      { refined with operands := refined.operands.take height, labels := labels } where
  labels := rfl
  tableTypes := refines.tableTypes
  operands := List.forall₂_take height refines.operands

theorem remove (count : Nat) : (state.remove count).Refines types (refined.remove count) := by
  unfold State.remove State.discard
  rw [refines.labels, refines.limit, refines.height]
  split
  · exact refines
  · exact refines.cut _ _

theorem keep_table (kept : Option (List ValueType)) :
    State.Refines types { state with tableTypes := kept } { refined with tableTypes := kept } where
  labels := refines.labels
  tableTypes := rfl
  operands := refines.operands

theorem mark_unreachable : state.markUnreachable.Refines types refined.markUnreachable := by
  unfold State.markUnreachable
  rw [refines.labels]
  split
  · exact refines
  · exact refines.cut _ _

theorem enter (kind : LabelKind) (params results : List ValueType) :
    (state.enter kind params results).Refines types (refined.enter kind params results) where
  labels := by simp only [State.enter, refines.labels, refines.height]
  tableTypes := refines.tableTypes
  operands := (refines.push_same params).operands

theorem begin_arm (kind : LabelKind) (arm : List ValueType) :
    (state.beginArm kind arm).Refines types (refined.beginArm kind arm) := by
  unfold State.beginArm
  rw [refines.labels]
  split
  · exact refines
  · exact (refines.cut _ _).push_same arm

theorem leave : state.leave.Refines types refined.leave := by
  unfold State.leave
  rw [refines.labels]
  split
  · exact refines
  · exact (refines.cut _ _).push_same _

end State.Refines

/-- A state with exchanged operands accepts whatever the other state accepts. -/
def exchanging {env : Environment} (concrete : env.types.IsConcrete) : Relaxation env env where
  related := State.Refines env.types
  stands := env.types.Refines
  stands_self := .refl env.types
  stands_non_null refines := refines.as_non_null
  stands_compatible refines fits := refines.compatible concrete fits
  stands_reference refines allowed := refines.accepted_reference allowed
  stands_selected := by
    intro first second first' second' left right known fits
    obtain ⟨firstPlain, secondPlain⟩ := Bool.or_eq_false_iff.mp known
    rw [left.eq_of_no_reference firstPlain, right.eq_of_no_reference secondPlain]
    exact ⟨known, fits⟩
  all_compatible fits := fits
  get_type found := found
  targets_agree agree := agree
  start := ⟨rfl, rfl, .nil⟩
  shapes refines := by rw [refines.labels]
  table_types refines := refines.tableTypes
  peek refines seen := refines.peek seen
  empty_region refines _ empty := refines.empty_region empty
  push refines related := refines.push related
  remove refines count := refines.remove count
  keep_table refines kept := refines.keep_table kept
  mark_unreachable refines := refines.mark_unreachable
  enter refines kind params results := refines.enter kind params results
  begin_arm refines kind arm := refines.begin_arm kind arm
  leave refines := refines.leave

/-- Steps that all succeed in a state succeed in every relaxed one, and lead to a relaxed
state. -/
theorem Relaxation.replies_carry {env other : Environment} (relaxation : Relaxation env other)
    (operations : List Operation) {state relaxed : State}
    (relation : relaxation.related state relaxed)
    (succeeded : ∀ reply ∈ state.replies env operations, reply.1 = .ok ()) :
    (∀ reply ∈ relaxed.replies other operations, reply.1 = .ok ()) ∧
      relaxation.related (state.after env operations) (relaxed.after other operations) := by
  induction operations generalizing state relaxed with
  | nil => exact ⟨fun _ member => absurd member List.not_mem_nil, relation⟩
  | cons operation rest ih =>
      obtain ⟨passed, later⟩ := List.forall_mem_cons.mp succeeded
      obtain ⟨passed', between⟩ := relaxation.run_carries operation state relaxed relation passed
      obtain ⟨later', reached⟩ := ih between later
      exact ⟨List.forall_mem_cons.mpr ⟨passed', later'⟩, reached⟩

/-- Steps that all succeed succeed again when operands are exchanged for operands of
compatible types, and the states they lead to differ in the same way. The registry must
not mention `any`; labels and the arguments of the steps may. -/
theorem exchanged_operands_keep_acceptance (env : Environment) (concrete : env.types.IsConcrete)
    {state refined : State} (refines : state.Refines env.types refined)
    (operations : List Operation)
    (succeeded : ∀ reply ∈ state.replies env operations, reply.1 = .ok ()) :
    (∀ reply ∈ refined.replies env operations, reply.1 = .ok ()) ∧
      (state.after env operations).Refines env.types (refined.after env operations) :=
  (exchanging concrete).replies_carry operations refines succeeded

/-- References to a recursive type in place of references to another type of the same
shape, and in place of a reference to any function. -/
theorem exchanged_references_keep_acceptance :
    let types := (Registry.empty.insert 0 ⟨[], [.ref 0 true]⟩).insert 1 ⟨[], [.ref 1 true]⟩
    let env : Environment := ⟨types, .all⟩
    let labels : List Label :=
      [⟨.block, [], [.funcref false], 2, false⟩, ⟨.function, [], [.ref 1 true], 0, false⟩]
    let state : State := ⟨[.ref 1 true, .ref 1 true, .funcref true], labels, none⟩
    let refined : State := ⟨[.ref 0 false, .ref 0 true, .ref 0 true], labels, none⟩
    let operations : List Operation :=
      [.brOnNonNull 0, .plain (.refFunc 1), .endBlock, .drop, .refAsNonNull, .callRef 1]
    state.Refines types refined ∧
      (∀ reply ∈ refined.replies env operations, reply.1 = .ok ()) ∧
      (state.after env operations).Refines types (refined.after env operations) := by
  intro types env labels state refined operations
  have concrete : types.IsConcrete :=
    (Registry.empty_concrete.insert 0 (by decide)).insert 1 (by decide)
  have simulation : types.Simulation fun source target => source = 0 ∧ target = 1 := by
    rintro _ _ ⟨rfl, rfl⟩
    exact .inr ⟨_, _, rfl, rfl, .nil, .cons (.ref (.inl rfl) (.inr ⟨rfl, rfl⟩)) .nil⟩
  have shape (nullable : Bool) : types.compatible (.ref 0 nullable) (.ref 1 true) = true :=
    (types.compatible_iff_exists_simulation _ _).mpr
      ⟨_, .ref (.inl rfl) (.inr ⟨rfl, rfl⟩), simulation⟩
  have refines : state.Refines types refined :=
    ⟨rfl, rfl, .cons (.inr ⟨by decide, by decide, shape false⟩)
      (.cons (.inr ⟨by decide, by decide, shape true⟩)
        (.cons (.inr ⟨by decide, by decide, rfl⟩) .nil))⟩
  exact ⟨refines,
    exchanged_operands_keep_acceptance env concrete refines operations (by decide +kernel)⟩

end WasmTyping
