import WasmTyping.Compatibility

/-!
# Assumptions as a stack

The comparison of indexed references can be run with one stack of assumed pairs
that every nested comparison shares: a pair is pushed before its signatures are
compared and popped after them, whatever the answer. Each comparison starts from
the stack that the one before it left. The answers are those of the comparison
in which assumptions are passed inwards only.
-/

set_option autoImplicit false

namespace WasmTyping

/-- The answer of a comparison and the assumptions it leaves, which are those it
found. -/
abbrev Answer (assumed : List (Nat × Nat)) : Type :=
  { answer : Bool × List (Nat × Nat) // answer.2 = assumed }

namespace Answer

variable {assumed : List (Nat × Nat)}

/-- An answer given without touching the assumptions. -/
def plain (assumed : List (Nat × Nat)) (answer : Bool) : Answer assumed :=
  ⟨(answer, assumed), rfl⟩

/-- Go on from the assumptions left behind, unless the answer is already no. -/
def andThen (first : Answer assumed) (next : ∀ current, current = assumed → Answer current) :
    Answer assumed :=
  if first.1.1 then
    let second := next first.1.2 first.2
    ⟨second.1, second.2.trans first.2⟩
  else first

/-- Take the newest assumption off again. -/
def pop {pair : Nat × Nat} (answer : Answer (pair :: assumed)) : Answer assumed :=
  ⟨(answer.1.1, answer.1.2.tail), congrArg List.tail answer.2⟩

theorem and_then_value (first : Answer assumed)
    (next : ∀ current, current = assumed → Answer current) :
    (first.andThen next).1.1 = (first.1.1 && (next assumed rfl).1.1) := by
  obtain ⟨⟨answer, left⟩, rfl⟩ := first
  cases answer <;> rfl

end Answer

/-- Compare two types; only two indexed references need the assumptions. -/
def ValueType.compare {assumed : List (Nat × Nat)} (compareIndices : Nat → Nat → Answer assumed) :
    ValueType → ValueType → Answer assumed
  | .ref source actual, .ref target expected =>
    if nullFits actual expected then compareIndices source target else .plain assumed false
  | actual, expected => .plain assumed (actual.fits (fun _ _ => false) expected)

/-- Compare pairs of types one after the other until one does not fit. -/
def ValueType.compareEach {found : List (Nat × Nat)}
    (compareTypes : ∀ current, current = found → ValueType → ValueType → Answer current) :
    List (ValueType × ValueType) → ∀ current, current = found → Answer current
  | [], current, _ => .plain current true
  | pair :: rest, current, same =>
    (compareTypes current same pair.1 pair.2).andThen fun later left =>
      compareEach compareTypes rest later (left.trans same)

def ValueType.compareSequences {found : List (Nat × Nat)}
    (compareTypes : ∀ current, current = found → ValueType → ValueType → Answer current)
    (actuals expecteds : List ValueType) (current : List (Nat × Nat)) (same : current = found) :
    Answer current :=
  if actuals.length = expecteds.length then
    compareEach compareTypes (actuals.zip expecteds) current same
  else .plain current false

namespace Registry

/-- Compare two indices with the pairs on the stack assumed. -/
def compareIndices (registry : Registry) (assumed : List (Nat × Nat)) (source target : Nat) :
    Answer assumed :=
  if source = target then .plain assumed true
  else if fresh : (source, target) ∈ assumed then .plain assumed true
  else
    match sourceFound : registry.get? source, targetFound : registry.get? target with
    | some actual, some expected =>
      let compareTypes := fun current (pushed : current = (source, target) :: assumed) =>
        have : (registry.unassumed current).length < (registry.unassumed assumed).length :=
          pushed ▸ length_unassumed_cons_lt fresh sourceFound targetFound
        ValueType.compare (registry.compareIndices current)
      let params := ValueType.compareSequences compareTypes actual.params expected.params _ rfl
      (params.andThen (ValueType.compareSequences compareTypes actual.results expected.results)).pop
    | _, _ => .plain assumed false
termination_by (registry.unassumed assumed).length

/-- Whether one type may stand for another, from an empty stack. -/
def compareTypes (registry : Registry) (actual expected : ValueType) : Answer [] :=
  ValueType.compare (registry.compareIndices []) actual expected

/-- Whether two sequences fit, with one stack for all their pairs. -/
def compareSequences (registry : Registry) (actuals expecteds : List ValueType) : Answer [] :=
  ValueType.compareSequences (fun current _ => ValueType.compare (registry.compareIndices current))
    actuals expecteds [] rfl

end Registry

/-! ## The answers -/

theorem compare_value {assumed : List (Nat × Nat)} (compareIndices : Nat → Nat → Answer assumed)
    (actual expected : ValueType) :
    (ValueType.compare compareIndices actual expected).1.1 =
      actual.fits (fun source target => (compareIndices source target).1.1) expected := by
  fun_cases ValueType.compare compareIndices actual expected with
  | case1 source actual target expected null => simp [ValueType.fits, null]
  | case2 source actual target expected null => simp [ValueType.fits, null, Answer.plain]
  | case3 actual expected other =>
      cases actual with
      | ref source nullable =>
          cases expected with
          | ref target admitted => exact (other source nullable target admitted rfl rfl).elim
          | _ => rfl
      | _ => cases expected <;> rfl

theorem compare_each_value {found : List (Nat × Nat)}
    (compareTypes : ∀ current, current = found → ValueType → ValueType → Answer current)
    (pairs : List (ValueType × ValueType)) :
    (ValueType.compareEach compareTypes pairs found rfl).1.1 =
      pairs.all fun pair => (compareTypes found rfl pair.1 pair.2).1.1 := by
  induction pairs with
  | nil => rfl
  | cons pair rest ih =>
      rw [ValueType.compareEach, Answer.and_then_value, ih, List.all_cons]

theorem compare_sequences_value {found : List (Nat × Nat)}
    (compareTypes : ∀ current, current = found → ValueType → ValueType → Answer current)
    (actuals expecteds : List ValueType) :
    (ValueType.compareSequences compareTypes actuals expecteds found rfl).1.1 =
      (actuals.length == expecteds.length &&
        (actuals.zip expecteds).all fun pair => (compareTypes found rfl pair.1 pair.2).1.1) := by
  unfold ValueType.compareSequences
  split
  · rename_i same
    rw [compare_each_value, beq_iff_eq.mpr same, Bool.true_and]
  · rename_i differ
    simp [Answer.plain, differ]

namespace Registry

theorem index_fits_of_fresh {registry : Registry} {assumed : List (Nat × Nat)}
    {source target : Nat} (distinct : source ≠ target) (fresh : (source, target) ∉ assumed) :
    registry.indexFits assumed source target =
      match registry.get? source, registry.get? target with
      | some actual, some expected =>
        ValueType.allFit (registry.indexFits ((source, target) :: assumed))
            actual.params expected.params &&
          ValueType.allFit (registry.indexFits ((source, target) :: assumed))
            actual.results expected.results
      | _, _ => false := by
  rw [indexFits, if_neg distinct, dif_neg fresh]
  split <;> simp_all

/-- The shared stack gives the answers of assumptions that are only passed
inwards. The induction is on the pairs that are not assumed yet. -/
theorem compare_indices_value (registry : Registry) (assumed : List (Nat × Nat))
    (source target : Nat) :
    (registry.compareIndices assumed source target).1.1 =
      registry.indexFits assumed source target := by
  rw [compareIndices]
  split
  · rename_i same
    rw [indexFits, if_pos same]
    rfl
  rename_i distinct
  split
  · rename_i member
    rw [indexFits, if_neg distinct, dif_pos member]
    rfl
  rename_i fresh
  rw [index_fits_of_fresh distinct fresh]
  split
  · rename_i actual expected sourceFound targetFound
    have smaller := length_unassumed_cons_lt fresh sourceFound targetFound
    have nested : ∀ left right,
        (registry.compareIndices ((source, target) :: assumed) left right).1.1 =
          registry.indexFits ((source, target) :: assumed) left right :=
      fun left right => compare_indices_value registry _ left right
    simp only [sourceFound, targetFound, Answer.pop, Answer.and_then_value,
      compare_sequences_value, compare_value, nested, ValueType.allFit]
  · rename_i missing
    rcases sourceFound : registry.get? source with _ | actual
    · rfl
    rcases targetFound : registry.get? target with _ | expected
    · rfl
    exact (missing actual expected sourceFound targetFound).elim
termination_by (registry.unassumed assumed).length

theorem compare_types_eq (registry : Registry) (actual expected : ValueType) :
    (registry.compareTypes actual expected).1 = (registry.compatible actual expected, []) := by
  refine Prod.ext ?_ (registry.compareTypes actual expected).2
  show (registry.compareTypes actual expected).1.1 = registry.compatible actual expected
  simp only [compareTypes, compare_value, compare_indices_value, compatible]

theorem compare_sequences_eq (registry : Registry) (actuals expecteds : List ValueType) :
    (registry.compareSequences actuals expecteds).1 =
      (registry.allCompatible actuals expecteds, []) := by
  refine Prod.ext ?_ (registry.compareSequences actuals expecteds).2
  show (registry.compareSequences actuals expecteds).1.1 =
    registry.allCompatible actuals expecteds
  simp only [compareSequences, compare_sequences_value, compare_value, compare_indices_value,
    allCompatible, ValueType.allFit]

end Registry

end WasmTyping
