import WasmTyping.Proofs.SequenceTyping
import WasmTyping.Proofs.StructuralCompatibility

/-!
# One region at a time

A region is described by the operands known to be in it and by whether it is
dead: in a dead region any operands may lie below the known ones. A structured
sequence takes such a description to the next one or is refused, and the stacks
it describes are those of the typing judgement. A derivation has to guess the
stack of code that cannot be executed; the description leaves it open, and a
guess can be made backwards from any stack that comes out.
-/

set_option autoImplicit false

namespace WasmTyping

structure Region where
  operands : List ValueType
  dead : Bool
  deriving DecidableEq

namespace Region

/-- A region that has just been entered. -/
def start (params : List ValueType) : Region := ⟨params, false⟩

/-- What is left after a jump. -/
def unknown : Region := ⟨[], true⟩

/-- The operand a number of entries below the top. -/
def peek? (region : Region) (depth : Nat) : Option ValueType :=
  match region.operands.reverse[depth]? with
  | some type => some type
  | none => if region.dead then some .any else none

/-- The operands at the top, deepest first. -/
def top (region : Region) : Nat → Option (List ValueType)
  | 0 => some []
  | count + 1 => (region.peek? count).bind fun type => (region.top count).map (type :: ·)

def discard (region : Region) (count : Nat) : Region :=
  { region with operands := region.operands.take (region.operands.length - count) }

def push (region : Region) (types : List ValueType) : Region :=
  { region with operands := region.operands ++ types }

/-- Remove operands that fit a signature. -/
def pop (region : Region) (types : Registry) (params : List ValueType) : Option Region :=
  (region.top params.length).bind fun found =>
    if types.allCompatible found params then some (region.discard params.length) else none

def exchange (region : Region) (types : Registry) (params results : List ValueType) :
    Option Region :=
  (region.pop types params).map fun rest => rest.push results

/-- Jump with the operands that a label carries. -/
def jump (region : Region) (types : Registry) (carried : List ValueType) : Option Region :=
  (region.pop types carried).map fun _ => unknown

/-- The operands of the region are exactly the given results. -/
def endsIn (region : Region) (types : Registry) (results : List ValueType) : Bool :=
  (region.pop types results).any fun rest => rest.operands.isEmpty

/-- Pass a region with the given signature, whose arms are described by what they
leave. -/
def around (region : Region) (types : Registry) (signature : FuncType)
    (arms : List (Option Region)) : Option Region :=
  if arms.all fun arm => arm.any fun left => left.endsIn types signature.results then
    region.exchange types signature.params signature.results
  else none

/-- Every target of a table finds its operands and agrees with the first one. -/
def carriesAll (region : Region) (types : Registry) (features : Features)
    (labels : List (List ValueType)) (targets : List Nat) : Bool :=
  (targets.head?.bind fun depth => labels[depth]?).any fun first =>
    targets.all fun depth => labels[depth]?.any fun carried =>
      (region.pop types carried).isSome && tableTargetsAgree features first carried

end Region

/-- What a sequence makes of the region it stands in, `none` where it is
refused. -/
def Sequence.flow (scope : Scope) :
    Sequence → List (List ValueType) → Region → Option Region
  | .empty, _, region => some region
  | .append first second, labels, region =>
    (first.flow scope labels region).bind (second.flow scope labels)
  | .simple instruction, _, region =>
    (instruction.signature scope).bind fun signature =>
      region.exchange scope.module.types signature.params signature.results
  | .unreachable, _, _ => some .unknown
  | .drop, _, region => region.pop scope.module.types [.any]
  | .br depth, labels, region => labels[depth]?.bind (region.jump scope.module.types)
  | .brIf depth, labels, region =>
    (region.pop scope.module.types [.i32]).bind fun rest =>
      labels[depth]?.bind fun carried => rest.exchange scope.module.types carried carried
  | .brTable targets fallback, labels, region =>
    (region.pop scope.module.types [.i32]).bind fun rest =>
      if rest.carriesAll scope.module.types scope.features labels (targets ++ [fallback]) then
        some .unknown
      else none
  | .returnValues, labels, region => labels.getLast?.bind (region.jump scope.module.types)
  | .block type body, labels, region =>
    (scope.blockType? type).bind fun signature =>
      region.around scope.module.types signature
        [body.flow scope (signature.results :: labels) (.start signature.params)]
  | .loop type body, labels, region =>
    (scope.blockType? type).bind fun signature =>
      region.around scope.module.types signature
        [body.flow scope (signature.params :: labels) (.start signature.params)]
  | .ifThen type arm, labels, region =>
    (region.pop scope.module.types [.i32]).bind fun rest =>
      (scope.blockType? type).bind fun signature =>
        rest.around scope.module.types signature
          [arm.flow scope (signature.results :: labels) (.start signature.params),
            some (.start signature.params)]
  | .ifElse type arm other, labels, region =>
    (region.pop scope.module.types [.i32]).bind fun rest =>
      (scope.blockType? type).bind fun signature =>
        rest.around scope.module.types signature
          [arm.flow scope (signature.results :: labels) (.start signature.params),
            other.flow scope (signature.results :: labels) (.start signature.params)]

theorem exists_bind_iff {α β : Type} (first : Option α) (next : α → Option β)
    (property : β → Prop) :
    (∃ value, first.bind next = some value ∧ property value) ↔
      ∃ between, first = some between ∧ ∃ value, next between = some value ∧ property value := by
  cases first <;> simp

theorem Registry.any_compatible (types : Registry) (expected : ValueType) :
    types.compatible .any expected = true := rfl

theorem Registry.compatible_any (types : Registry) (actual : ValueType) :
    types.compatible actual .any = true := by
  cases actual <;> rfl

theorem all_compatible_length {types : Registry} {actuals expecteds : List ValueType}
    (fits : types.allCompatible actuals expecteds = true) :
    actuals.length = expecteds.length :=
  ((types.all_compatible_iff actuals expecteds).mp fits).length_eq

/-- Operands may be forgotten and still fit. -/
theorem all_compatible_of_unknown (types : Registry) (hidden known expected : List ValueType)
    (fits : types.allCompatible (hidden ++ known) expected = true) :
    types.allCompatible (List.replicate hidden.length .any ++ known) expected = true := by
  rw [types.all_compatible_iff] at fits ⊢
  induction hidden generalizing expected with
  | nil => exact fits
  | cons type hidden ih =>
      cases fits with
      | cons _ rest => exact .cons (types.any_compatible _) (ih _ rest)

theorem all_compatible_singleton_iff (types : Registry) (operands : List ValueType)
    (expected : ValueType) :
    types.allCompatible operands [expected] = true ↔
      ∃ operand, operands = [operand] ∧ types.compatible operand expected = true := by
  rw [types.all_compatible_iff, List.forall₂_cons_right_iff]
  simp [and_comm]

namespace Region

/-! ## Operands at the top -/

theorem peek_of_known (deeper above : List ValueType) (type : ValueType) (dead : Bool) :
    peek? ⟨deeper ++ type :: above, dead⟩ above.length = some type := by
  have found : (deeper ++ type :: above).reverse[above.length]? = some type := by
    rw [List.reverse_append, List.reverse_cons, List.append_assoc,
      List.getElem?_append_right (by simp)]
    simp
  simp only [peek?, found]

theorem peek_of_short {region : Region} {depth : Nat} (short : region.operands.length ≤ depth) :
    region.peek? depth = if region.dead then some .any else none := by
  have missing : region.operands.reverse[depth]? = none := by
    apply List.getElem?_eq_none
    simpa using short
  simp only [peek?, missing]

theorem peek_is_some_iff (region : Region) (depth : Nat) :
    (region.peek? depth).isSome = true ↔ depth < region.operands.length ∨ region.dead = true := by
  by_cases known : depth < region.operands.length
  · simp [peek?, known]
  · rw [peek_of_short (Nat.le_of_not_lt known)]
    cases region.dead <;> simp [known]

theorem top_is_some_iff (region : Region) (count : Nat) :
    (region.top count).isSome = true ↔ count ≤ region.operands.length ∨ region.dead = true := by
  induction count with
  | zero => simp [top]
  | succ count ih =>
      have both : (region.top (count + 1)).isSome = true ↔
          (region.peek? count).isSome = true ∧ (region.top count).isSome = true := by
        rw [top]
        cases region.peek? count <;> simp
      rw [both, ih, peek_is_some_iff]
      cases region.dead with
      | true => simp
      | false =>
          simp only [Bool.false_eq_true, or_false]
          omega

theorem top_of_known (deeper known : List ValueType) (dead : Bool) :
    top ⟨deeper ++ known, dead⟩ known.length = some known := by
  induction known generalizing deeper with
  | nil => rfl
  | cons type above ih =>
      have shifted : deeper ++ type :: above = (deeper ++ [type]) ++ above := by simp
      have rest : top ⟨deeper ++ type :: above, dead⟩ above.length = some above := by
        rw [shifted]
        exact ih (deeper ++ [type])
      simp only [List.length_cons, top, peek_of_known, rest, Option.bind_some, Option.map_some]

/-- A dead region stands in for the operands it lacks. -/
theorem top_of_dead (operands : List ValueType) (missing : Nat) :
    top ⟨operands, true⟩ (missing + operands.length) =
      some (List.replicate missing .any ++ operands) := by
  induction missing with
  | zero =>
      rw [Nat.zero_add]
      exact top_of_known [] operands true
  | succ missing ih =>
      have padded : peek? ⟨operands, true⟩ (missing + operands.length) = some .any :=
        peek_of_short (by simp)
      rw [Nat.succ_add]
      simp only [top, padded, ih, Option.bind_some, Option.map_some, List.replicate_succ,
        List.cons_append]

theorem top_of_short {operands : List ValueType} {count : Nat}
    (short : operands.length < count) : top ⟨operands, false⟩ count = none := by
  cases count with
  | zero => omega
  | succ count =>
      have missing : peek? ⟨operands, false⟩ count = none :=
        peek_of_short (Nat.le_of_lt_succ short)
      simp only [top, missing, Option.bind_none]

/-- Either the operands are all known, or the region is dead and lacks some. -/
theorem top_cases {region : Region} {count : Nat} {found : List ValueType}
    (shown : region.top count = some found) :
    (∃ deeper, region.operands = deeper ++ found ∧ found.length = count ∧
      region.discard count = ⟨deeper, region.dead⟩) ∨
    (∃ missing, region.dead = true ∧ count = missing + region.operands.length ∧
      found = List.replicate missing .any ++ region.operands ∧
      region.discard count = .unknown) := by
  obtain ⟨operands, dead⟩ := region
  by_cases known : count ≤ operands.length
  · left
    have split := List.take_append_drop (operands.length - count) operands
    have length : (operands.drop (operands.length - count)).length = count := by
      rw [List.length_drop]
      omega
    have whole := top_of_known (operands.take (operands.length - count))
      (operands.drop (operands.length - count)) dead
    rw [split, length, shown] at whole
    have same : found = operands.drop (operands.length - count) := Option.some.inj whole
    refine ⟨operands.take (operands.length - count), ?_, ?_, rfl⟩
    · rw [same]
      exact split.symm
    · rw [same]
      exact length
  · right
    have short : operands.length < count := Nat.lt_of_not_le known
    cases dead with
    | false =>
        rw [top_of_short short] at shown
        cases shown
    | true =>
        have counted : count = (count - operands.length) + operands.length := by omega
        rw [counted, top_of_dead] at shown
        refine ⟨count - operands.length, rfl, counted, (Option.some.inj shown).symm, ?_⟩
        have nothing : operands.length - count = 0 := by omega
        simp [discard, unknown, nothing]

/-! ## The stacks of a region -/

/-- A stack has the known operands on top, and more below them only in a dead
region. -/
def Admits (region : Region) (stack : List ValueType) : Prop :=
  ∃ below, stack = below ++ region.operands ∧ (region.dead = false → below = [])

theorem admits_operands (region : Region) : region.Admits region.operands :=
  ⟨[], rfl, fun _ => rfl⟩

theorem unknown_admits (stack : List ValueType) : unknown.Admits stack :=
  ⟨stack, (List.append_nil stack).symm, fun alive => by cases alive⟩

theorem start_admits_iff (params stack : List ValueType) :
    (start params).Admits stack ↔ stack = params := by
  constructor
  · rintro ⟨below, rfl, empty⟩
    rw [empty rfl]
    rfl
  · rintro rfl
    exact admits_operands (start stack)

theorem push_admits_iff (region : Region) (types stack : List ValueType) :
    (region.push types).Admits stack ↔ ∃ below, stack = below ++ types ∧ region.Admits below := by
  constructor
  · rintro ⟨below, rfl, empty⟩
    exact ⟨below ++ region.operands, (List.append_assoc _ _ _).symm, below, rfl, empty⟩
  · rintro ⟨_, rfl, below, rfl, empty⟩
    exact ⟨below, List.append_assoc _ _ _, empty⟩

theorem admits_of_top {region : Region} {count : Nat} {found below : List ValueType}
    (shown : region.top count = some found) (admits : (region.discard count).Admits below) :
    region.Admits (below ++ found) := by
  rcases top_cases shown with ⟨deeper, known, -, discarded⟩ | ⟨missing, dead, -, padded, -⟩
  · rw [discarded] at admits
    obtain ⟨lower, rfl, empty⟩ := admits
    refine ⟨lower, ?_, empty⟩
    rw [known, List.append_assoc]
  · refine ⟨below ++ List.replicate missing .any, ?_, ?_⟩
    · rw [padded, List.append_assoc]
    · intro alive
      rw [dead] at alive
      cases alive

/-- The operands shown fit wherever those of an admitted stack do. -/
theorem exists_top_of_admits {region : Region} {below operands : List ValueType}
    (admits : region.Admits (below ++ operands)) :
    ∃ found, region.top operands.length = some found ∧
      (∀ (types : Registry) (expected : List ValueType),
        types.allCompatible operands expected = true →
          types.allCompatible found expected = true) ∧
      (region.discard operands.length).Admits below := by
  obtain ⟨known, dead⟩ := region
  obtain ⟨lower, stack, empty⟩ := admits
  dsimp only at stack empty
  rcases List.append_eq_append_iff.mp stack.symm with ⟨deeper, rfl, rfl⟩ | ⟨hidden, rfl, rfl⟩
  · -- The known operands reach below those asked for.
    refine ⟨operands, top_of_known deeper operands dead, fun _ _ fits => fits, lower, ?_, empty⟩
    simp [discard]
  · -- Only a dead region has operands that are not known.
    cases hidden with
    | nil =>
        refine ⟨known, top_of_known [] known dead, fun _ _ fits => fits, below, ?_, ?_⟩
        · simp [discard]
        · intro alive
          simpa using empty alive
    | cons first others =>
        have deadRegion : dead = true := by
          cases dead with
          | true => rfl
          | false => simp at empty
        subst deadRegion
        have shown := top_of_dead known (first :: others).length
        rw [← List.length_append] at shown
        refine ⟨_, shown, ?_, below, ?_, fun alive => by cases alive⟩
        · intro types expected fits
          exact all_compatible_of_unknown types (first :: others) known expected fits
        · have nothing : known.length - (first :: others ++ known).length = 0 := by
            rw [List.length_append]
            omega
          simp only [discard, nothing, List.take_zero, List.append_nil]

/-! ## Signatures -/

section Signatures

variable {region : Region} {types : Registry} {params : List ValueType}

theorem pop_eq_some_iff (rest : Region) :
    region.pop types params = some rest ↔
      ∃ found, region.top params.length = some found ∧
        types.allCompatible found params = true ∧ rest = region.discard params.length := by
  unfold pop
  cases region.top params.length with
  | none => simp
  | some found =>
      by_cases fits : types.allCompatible found params = true
      · simp only [Option.bind_some, fits, if_true, Option.some.injEq, exists_eq_left', true_and]
        exact eq_comm
      · simp [fits]

theorem pop_nil (region : Region) (types : Registry) : region.pop types [] = some region := by
  rw [pop_eq_some_iff]
  exact ⟨[], rfl, rfl, by simp [discard]⟩

theorem pop_of_admits {below operands : List ValueType}
    (admits : region.Admits (below ++ operands))
    (fits : types.allCompatible operands params = true) :
    ∃ rest, region.pop types params = some rest ∧ rest.Admits below := by
  obtain ⟨found, shown, weaker, remains⟩ := exists_top_of_admits admits
  have counted : operands.length = params.length := all_compatible_length fits
  rw [counted] at shown remains
  exact ⟨_, (pop_eq_some_iff _).mpr ⟨found, shown, weaker types params fits, rfl⟩, remains⟩

theorem admits_of_pop {rest : Region} {below : List ValueType}
    (popped : region.pop types params = some rest) (admits : rest.Admits below) :
    ∃ operands, types.allCompatible operands params = true ∧
      region.Admits (below ++ operands) := by
  obtain ⟨found, shown, fits, rfl⟩ := (pop_eq_some_iff rest).mp popped
  exact ⟨found, fits, admits_of_top shown admits⟩

theorem exchange_of_admits {results below operands : List ValueType}
    (admits : region.Admits (below ++ operands))
    (fits : types.allCompatible operands params = true) :
    ∃ after, region.exchange types params results = some after ∧
      after.Admits (below ++ results) := by
  obtain ⟨rest, popped, remains⟩ := pop_of_admits admits fits
  refine ⟨rest.push results, ?_, ?_⟩
  · simp [exchange, popped]
  · exact (push_admits_iff rest results _).mpr ⟨below, rfl, remains⟩

theorem admits_of_exchange {after : Region} {results stack : List ValueType}
    (exchanged : region.exchange types params results = some after)
    (admits : after.Admits stack) :
    ∃ below operands, stack = below ++ results ∧
      types.allCompatible operands params = true ∧ region.Admits (below ++ operands) := by
  obtain ⟨rest, popped, rfl⟩ := Option.map_eq_some_iff.mp exchanged
  obtain ⟨below, rfl, remains⟩ := (push_admits_iff rest results stack).mp admits
  obtain ⟨operands, fits, admitted⟩ := admits_of_pop popped remains
  exact ⟨below, operands, rfl, fits, admitted⟩

theorem jump_of_admits {below operands : List ValueType}
    (admits : region.Admits (below ++ operands))
    (fits : types.allCompatible operands params = true) :
    region.jump types params = some .unknown := by
  obtain ⟨rest, popped, -⟩ := pop_of_admits admits fits
  simp [jump, popped]

theorem admits_of_jump {after : Region} (jumped : region.jump types params = some after) :
    ∃ below operands, types.allCompatible operands params = true ∧
      region.Admits (below ++ operands) := by
  obtain ⟨rest, popped, -⟩ := Option.map_eq_some_iff.mp jumped
  obtain ⟨operands, fits, admitted⟩ := admits_of_pop popped rest.admits_operands
  exact ⟨rest.operands, operands, fits, admitted⟩

theorem ends_in_iff (results : List ValueType) :
    region.endsIn types results = true ↔
      ∃ left, region.Admits left ∧ types.allCompatible left results = true := by
  unfold endsIn
  rw [Option.any_eq_true]
  constructor
  · rintro ⟨rest, popped, empty⟩
    have nothing : rest.operands = [] := List.isEmpty_iff.mp empty
    have remains := rest.admits_operands
    rw [nothing] at remains
    obtain ⟨left, fits, admits⟩ := admits_of_pop popped remains
    exact ⟨left, admits, fits⟩
  · rintro ⟨left, admits, fits⟩
    have whole : region.Admits ([] ++ left) := admits
    obtain ⟨rest, popped, below, nothing, -⟩ := pop_of_admits whole fits
    have empty : rest.operands = [] := (List.append_eq_nil_iff.mp nothing.symm).2
    exact ⟨rest, popped, List.isEmpty_iff.mpr empty⟩

theorem around_eq_some_iff (signature : FuncType) (arms : List (Option Region))
    (after : Region) :
    region.around types signature arms = some after ↔
      (∀ arm ∈ arms, ∃ left, arm = some left ∧ left.endsIn types signature.results = true) ∧
        region.exchange types signature.params signature.results = some after := by
  unfold around
  rw [Option.ite_none_right_eq_some, List.all_eq_true]
  simp only [Option.any_eq_true]

/-- What follows a region sees it as an exchange, if its arms fit. -/
theorem around_bind_iff (found : Option FuncType) (arms : FuncType → List (Option Region))
    (follows : Region → Prop) :
    (∃ next, (found.bind fun signature =>
      region.around types signature (arms signature)) = some next ∧ follows next) ↔
    ∃ signature, found = some signature ∧
      (∀ arm ∈ arms signature, ∃ left, arm = some left ∧
        left.endsIn types signature.results = true) ∧
      ∃ inner, region.pop types signature.params = some inner ∧
        follows (inner.push signature.results) := by
  rw [exists_bind_iff]
  simp only [around_eq_some_iff, exchange, Option.map_eq_some_iff]
  constructor
  · rintro ⟨signature, resolved, _, ⟨fit, inner, popped, rfl⟩, after⟩
    exact ⟨signature, resolved, fit, inner, popped, after⟩
  · rintro ⟨signature, resolved, fit, inner, popped, after⟩
    exact ⟨signature, resolved, _, ⟨fit, inner, popped, rfl⟩, after⟩

end Signatures

theorem carries_all_iff (region : Region) (types : Registry) (features : Features)
    (labels : List (List ValueType)) (target : Nat) (targets : List Nat) :
    region.carriesAll types features labels (target :: targets) = true ↔
      ∃ first, labels[target]? = some first ∧ ∀ depth ∈ target :: targets, ∃ carried,
        labels[depth]? = some carried ∧ (region.pop types carried).isSome = true ∧
          tableTargetsAgree features first carried = true := by
  unfold carriesAll
  rw [Option.any_eq_true]
  simp only [List.head?_cons, Option.bind_some, List.all_eq_true, Option.any_eq_true,
    Bool.and_eq_true]

end Region

end WasmTyping
