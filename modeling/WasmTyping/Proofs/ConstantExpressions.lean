import WasmTyping.Opcode.Table
import WasmTyping.Proofs.DeclarativeTyping

/-!
# Initializers are constant postfix expressions

A constant expression is evaluated here as a postfix program over types: each
instruction takes its operands off a stack and puts its result there. Evaluation
knows no labels, no regions and no unreachable code. An initializer is accepted
exactly when it is made of constant instructions, closed by a single `end`, and
evaluates to one value of the type it initializes.
-/

set_option autoImplicit false

namespace WasmTyping

/-! ## Constant instructions -/

/-- Addition, subtraction and multiplication of integers. -/
def Opcode.integerArithmetic : List Opcode :=
  numeric ["i32.add", "i32.sub", "i32.mul"] [.i32, .i32] .i32 ++
    numeric ["i64.add", "i64.sub", "i64.mul"] [.i64, .i64] .i64

/-- The instructions of which a constant expression is made. -/
inductive Instruction.IsConstant (module : Module) (features : Features) : Instruction → Prop where
  | i32Const (bits : BitVec 32) : IsConstant module features (.i32Const bits)
  | i64Const (bits : BitVec 64) : IsConstant module features (.i64Const bits)
  | f32Const (bits : BitVec 32) : IsConstant module features (.f32Const bits)
  | f64Const (bits : BitVec 64) : IsConstant module features (.f64Const bits)
  | v128Const (bits : BitVec 128) (simd : features.simd = true) :
      IsConstant module features (.v128Const bits)
  | refNull (type : ValueType) (references : features.referenceTypes = true) :
      IsConstant module features (.refNull type)
  | refFunc {function : Nat} (references : features.referenceTypes = true)
      (declared : function < module.functions.length) :
      IsConstant module features (.refFunc function)
  | globalGet {index : Nat} {type : ValueType}
      (immutable : module.globals[index]? = some ⟨type, false⟩) :
      IsConstant module features (.globalGet index)
  | arithmetic {op : Opcode} (extended : features.extendedConst = true)
      (integer : op ∈ Opcode.integerArithmetic) :
      IsConstant module features (.numeric .binary op)

/-! ## Postfix evaluation -/

/-- Take operands of the expected types off a stack. Both lists begin at the top. -/
def Registry.takeOperands (types : Registry) :
    List ValueType → List ValueType → Option (List ValueType)
  | [], stack => some stack
  | _ :: _, [] => none
  | expected :: deeper, actual :: stack =>
    if types.compatible actual expected then types.takeOperands deeper stack else none

namespace Module

variable (module : Module)

/-- The operands of an instruction of a constant expression and its result. -/
def constantSignature : Instruction → Option FuncType
  | .i32Const _ => some ⟨[], [.i32]⟩
  | .i64Const _ => some ⟨[], [.i64]⟩
  | .f32Const _ => some ⟨[], [.f32]⟩
  | .f64Const _ => some ⟨[], [.f64]⟩
  | .v128Const _ => some ⟨[], [.v128]⟩
  | .refNull type => some ⟨[], [type.asNullable]⟩
  | .refFunc function => module.functions[function]?.map fun index => ⟨[], [.ref index false]⟩
  | .globalGet index => module.globals[index]?.map fun global => ⟨[], [global.type]⟩
  | .numeric _ op => some ⟨op.paramTypes, op.resultTypes⟩
  | _ => none

/-- One instruction of a postfix program. The stack begins at its top. -/
def evaluateOne (instruction : Instruction) (stack : List ValueType) :
    Option (List ValueType) :=
  (module.constantSignature instruction).bind fun signature =>
    (module.types.takeOperands signature.params.reverse stack).map fun below =>
      signature.results.reverse ++ below

/-- A postfix program from left to right. -/
def evaluate : List Instruction → List ValueType → Option (List ValueType)
  | [], stack => some stack
  | instruction :: rest, stack => (module.evaluateOne instruction stack).bind (evaluate rest)

end Module

theorem Registry.take_operands_eq_some_iff (types : Registry)
    (expected stack below : List ValueType) :
    types.takeOperands expected stack = some below ↔
      ∃ operands, stack = operands ++ below ∧
        List.Forall₂ (fun actual expected => types.compatible actual expected = true)
          operands expected := by
  induction expected generalizing stack with
  | nil =>
      simp only [takeOperands, Option.some.injEq, List.forall₂_nil_right_iff, exists_eq_right,
        List.nil_append]
  | cons type deeper ih =>
      simp only [List.forall₂_cons_right_iff]
      cases stack with
      | nil => simp [takeOperands]
      | cons actual rest =>
          rw [takeOperands]
          by_cases fits : types.compatible actual type = true
          · rw [if_pos fits, ih]
            constructor
            · rintro ⟨operands, rfl, pairwise⟩
              exact ⟨actual :: operands, rfl, actual, operands, fits, pairwise, rfl⟩
            · rintro ⟨_, split, _, operands, -, pairwise, rfl⟩
              cases split
              exact ⟨operands, rfl, pairwise⟩
          · rw [if_neg fits]
            constructor
            · intro taken
              cases taken
            · rintro ⟨_, split, _, operands, fits', -, rfl⟩
              cases split
              exact absurd fits' fits

namespace Region

/-- In reachable code the operands of a signature are all known. -/
theorem start_pop_eq_some_iff (types : Registry) (operands params : List ValueType)
    (rest : Region) :
    (start operands).pop types params = some rest ↔
      ∃ deeper found, operands = deeper ++ found ∧ types.allCompatible found params = true ∧
        rest = start deeper := by
  rw [pop_eq_some_iff]
  constructor
  · rintro ⟨found, shown, fits, rfl⟩
    rcases top_cases shown with ⟨deeper, known, -, discarded⟩ | ⟨missing, dead, -, -, -⟩
    · exact ⟨deeper, found, known, fits, discarded⟩
    · cases dead
  · rintro ⟨deeper, found, rfl, fits, rfl⟩
    have counted := all_compatible_length fits
    refine ⟨found, ?_, fits, ?_⟩
    · rw [← counted]
      exact top_of_known deeper found false
    · simp [discard, start, ← counted]

/-- A reachable region gives up the operands that the stack gives up. -/
theorem start_pop (types : Registry) (stack params : List ValueType) :
    (start stack.reverse).pop types params =
      (types.takeOperands params.reverse stack).map fun below => start below.reverse := by
  apply Option.ext
  intro rest
  rw [start_pop_eq_some_iff, Option.map_eq_some_iff]
  constructor
  · rintro ⟨deeper, found, split, fits, rfl⟩
    refine ⟨deeper.reverse, ?_, by rw [List.reverse_reverse]⟩
    rw [types.take_operands_eq_some_iff]
    refine ⟨found.reverse, ?_, ?_⟩
    · rw [← List.reverse_append, ← split, List.reverse_reverse]
    · exact List.rel_reverse ((types.all_compatible_iff found params).mp fits)
  · rintro ⟨below, taken, rfl⟩
    obtain ⟨operands, rfl, fits⟩ := (types.take_operands_eq_some_iff _ _ _).mp taken
    refine ⟨below.reverse, operands.reverse, List.reverse_append, ?_, rfl⟩
    rw [types.all_compatible_iff]
    simpa using List.rel_reverse fits

theorem start_exchange (types : Registry) (stack params results : List ValueType) :
    (start stack.reverse).exchange types params results =
      (types.takeOperands params.reverse stack).map fun below =>
        start (results.reverse ++ below).reverse := by
  rw [exchange, start_pop, Option.map_map]
  congr 1
  funext below
  simp [push, start]

/-- A reachable region ends in one result where it holds one value that fits. -/
theorem start_ends_in_singleton_iff (types : Registry) (stack : List ValueType)
    (type : ValueType) :
    (start stack.reverse).endsIn types [type] = true ↔
      ∃ result, stack = [result] ∧ types.compatible result type = true := by
  rw [ends_in_iff]
  simp only [start_admits_iff, exists_eq_left, all_compatible_singleton_iff,
    List.reverse_eq_iff, List.reverse_singleton]

end Region

/-! ## The checker on constant instructions -/

/-- The arithmetic opcodes of the table are known by their names. -/
theorem Opcode.arithmetic_of_name :
    ∀ op ∈ all, op.name ∈ Scope.constantArithmetic → op ∈ integerArithmetic := by
  decide +kernel

theorem Opcode.arithmetic_is_scalar :
    ∀ op ∈ integerArithmetic, op.name ∈ Scope.constantArithmetic ∧ op.isSimd = false := by
  decide +kernel

namespace Scope

variable {scope : Scope} {instruction : Instruction}

/-- A constant instruction passes the filter of initializers. -/
theorem constant_passes (constant : instruction.IsConstant scope.module scope.features) :
    scope.readsMutableGlobal instruction = false ∧ scope.isConstant instruction = true := by
  cases constant with
  | globalGet immutable =>
      constructor
      · simp only [readsMutableGlobal, Module.global, Module.lookup, immutable]
      · rfl
  | arithmetic extended integer =>
      have named := (Opcode.arithmetic_is_scalar _ integer).1
      constructor
      · rfl
      · exact Bool.and_eq_true_iff.mpr ⟨extended, List.contains_iff_mem.mpr named⟩
  | _ => exact ⟨rfl, rfl⟩

/-- What passes the filter and is not refused either is a constant instruction or the
`end`. -/
theorem constant_of_unrefused (immutable : scope.readsMutableGlobal instruction = false)
    (passes : scope.isConstant instruction = true) (inner : instruction ≠ .endBlock)
    (tabled : ∀ op, instruction = .numeric .binary op → op ∈ Opcode.all) {depth : Nat}
    {env : Environment} {state next : State}
    (accepted : (Action.runAll (scope.instructionActions depth instruction)).accepted env state =
      some next) :
    instruction.IsConstant scope.module scope.features := by
  cases instruction with
  | i32Const bits => exact .i32Const bits
  | i64Const bits => exact .i64Const bits
  | f32Const bits => exact .f32Const bits
  | f64Const bits => exact .f64Const bits
  | v128Const bits =>
      exact .v128Const bits (accepted_of_requiring accepted).1
  | refNull type =>
      exact .refNull type (accepted_of_requiring accepted).1
  | refFunc function =>
      obtain ⟨references, named⟩ := accepted_of_requiring accepted
      rw [resolving_accepted, Module.functionTypeIndex, Module.lookup_to_option] at named
      obtain ⟨type, found, -⟩ := Option.bind_eq_some_iff.mp named
      exact .refFunc references (List.getElem?_eq_some_iff.mp found).1
  | globalGet index =>
      rw [instructionActions, resolving_accepted, Module.global, Module.lookup_to_option] at accepted
      obtain ⟨⟨type, mutability⟩, found, -⟩ := Option.bind_eq_some_iff.mp accepted
      have fixed : mutability = false := by
        simpa [readsMutableGlobal, Module.global, Module.lookup, found] using immutable
      rw [fixed] at found
      exact .globalGet found
  | numeric kind op =>
      cases kind with
      | binary =>
          obtain ⟨extended, named⟩ := Bool.and_eq_true_iff.mp passes
          apply Instruction.IsConstant.arithmetic extended
          apply Opcode.arithmetic_of_name op (tabled op rfl)
          exact List.contains_iff_mem.mp named
      | _ => cases passes
  | endBlock => exact absurd rfl inner
  | _ => cases passes

/-- A constant instruction exchanges operands by its signature. -/
theorem constant_accepted (constant : instruction.IsConstant scope.module scope.features)
    (around : Surroundings) (region : Region) (depth : Nat) :
    (Action.runAll (scope.instructionActions depth instruction)).accepted scope.environment
      (around.state region) =
        ((scope.module.constantSignature instruction).bind fun signature =>
          region.exchange scope.module.types signature.params signature.results).map
            around.state := by
  have simple := @simple_accepted scope around region depth
  have producing := Effect.producing_accepted scope.environment around region
  cases constant with
  | i32Const bits => exact simple (.i32Const bits)
  | i64Const bits => exact simple (.i64Const bits)
  | f32Const bits => exact simple (.f32Const bits)
  | f64Const bits => exact simple (.f64Const bits)
  | v128Const bits simd =>
      have signed : Simple.signature scope (.v128Const bits) = some ⟨[], [.v128]⟩ := if_pos simd
      have run := simple (.v128Const bits)
      rw [signed] at run
      exact run
  | refNull type references =>
      rw [instructionActions, requiring_accepted, Features.enabled, if_pos references]
      exact plain_accepted around region (producing _ _)
  | @refFunc function references declared =>
      rw [instructionActions, requiring_accepted, Features.enabled, if_pos references]
      exact resolved_plain_accepted around region _ _ _ fun _ => producing _ _
  | globalGet immutable => exact simple (.globalGet _)
  | @arithmetic op extended integer =>
      have scalar := (Opcode.arithmetic_is_scalar op integer).2
      have signed : Simple.signature scope (.numeric .binary op) =
          some ⟨op.paramTypes, op.resultTypes⟩ := by
        simp [Simple.signature, scalar]
      have run := simple (.numeric .binary op)
      rw [signed] at run
      exact run

end Scope

/-! ## Initializers -/

/-- The surroundings of the only region of an initializer. -/
def Surroundings.initializer (type : ValueType) : Surroundings := ⟨[], .initExpr, [], [type], []⟩

namespace Scope

variable {scope : Scope} {type : ValueType} (initializer : scope.kind = .initExpr type)

include initializer

theorem initializer_actions {instruction : Instruction} (depth : Nat)
    (immutable : scope.readsMutableGlobal instruction = false)
    (passes : scope.isConstant instruction = true) :
    scope.actions depth instruction = scope.instructionActions depth instruction := by
  simp only [actions, initializer, immutable, passes, Bool.false_eq_true, if_false, if_true]

/-- An instruction before the `end` is accepted exactly when it is constant and the
stack holds its operands. -/
theorem initializer_advance_iff (around : Surroundings) (stack : List ValueType)
    {instruction : Instruction} (inner : instruction ≠ .endBlock)
    (tabled : ∀ op, instruction = .numeric .binary op → op ∈ Opcode.all) (next : State) :
    scope.advance (around.state (.start stack.reverse)) instruction = some next ↔
      instruction.IsConstant scope.module scope.features ∧
        ∃ left, scope.module.evaluateOne instruction stack = some left ∧
          next = around.state (.start left.reverse) := by
  have evaluated (constant : instruction.IsConstant scope.module scope.features) :
      scope.advance (around.state (.start stack.reverse)) instruction =
        (scope.module.evaluateOne instruction stack).map fun left =>
          around.state (.start left.reverse) := by
    obtain ⟨immutable, passes⟩ := constant_passes constant
    rw [advance, initializer_actions initializer _ immutable passes, constant_accepted constant,
      Module.evaluateOne]
    cases scope.module.constantSignature instruction with
    | none => rfl
    | some signature =>
        rw [Option.bind_some, Option.bind_some, Region.start_exchange, Option.map_map,
          Option.map_map]
        rfl
  constructor
  · intro accepted
    obtain ⟨immutable, passes, run⟩ := admitted_of_advance initializer accepted
    have constant := constant_of_unrefused immutable passes inner tabled run
    rw [evaluated constant, Option.map_eq_some_iff] at accepted
    obtain ⟨left, found, same⟩ := accepted
    exact ⟨constant, left, found, same.symm⟩
  · rintro ⟨constant, left, found, rfl⟩
    rw [evaluated constant, found, Option.map_some]

/-- The `end` is accepted where one value of the right type is left, and closes the
body. -/
theorem initializer_completes_end_iff (stack : List ValueType) (rest : List Instruction) :
    scope.Completes (.endBlock :: rest)
      ((Surroundings.initializer type).state (.start stack.reverse)) ↔
        (∃ result, stack = [result] ∧ scope.module.types.compatible result type = true) ∧
          rest = [] := by
  have ended : scope.advance ((Surroundings.initializer type).state (.start stack.reverse))
      .endBlock =
        if (Region.start stack.reverse).endsIn scope.module.types [type] then
          some ⟨[type], [], none⟩
        else none := by
    have last : scope.instructionActions
        ((Surroundings.initializer type).state (.start stack.reverse)).labels.length .endBlock =
          [.perform .endInitExpr] := by
      simp only [instructionActions, endActions, initializer]
      rfl
    rw [advance, initializer_actions initializer _ rfl rfl, last, Action.run_all_perform_accepted]
    exact Check.close_region_accepted scope.environment (.initializer type) _ rfl _ _
  rw [← Region.start_ends_in_singleton_iff, Completes, ended]
  by_cases ends : (Region.start stack.reverse).endsIn scope.module.types [type] = true
  · simp [ends]
  · simp [ends]

theorem initializer_completes_cons_iff {instruction : Instruction}
    (inner : instruction ≠ .endBlock)
    (tabled : ∀ op, instruction = .numeric .binary op → op ∈ Opcode.all)
    (rest : List Instruction) (stack : List ValueType) :
    scope.Completes (instruction :: rest)
      ((Surroundings.initializer type).state (.start stack.reverse)) ↔
        instruction.IsConstant scope.module scope.features ∧
          ∃ left, scope.module.evaluateOne instruction stack = some left ∧
            scope.Completes rest ((Surroundings.initializer type).state (.start left.reverse)) := by
  have stays (left : List ValueType) :
      ((Surroundings.initializer type).state (.start left.reverse)).labels ≠ [] :=
    List.cons_ne_nil _ _
  rw [Completes]
  simp only [initializer_advance_iff initializer _ stack inner tabled]
  constructor
  · rintro ⟨_, ⟨constant, left, stepped, rfl⟩, completes⟩
    rw [if_neg (stays left)] at completes
    exact ⟨constant, left, stepped, completes⟩
  · rintro ⟨constant, left, stepped, completes⟩
    refine ⟨_, ⟨constant, left, stepped, rfl⟩, ?_⟩
    rw [if_neg (stays left)]
    exact completes

/-- The invariant of the walk: the region of an initializer holds the stack of the
evaluation so far. -/
theorem initializer_completes_iff (body : List Instruction)
    (tabled : ∀ op, .numeric .binary op ∈ body → op ∈ Opcode.all) (stack : List ValueType) :
    scope.Completes body ((Surroundings.initializer type).state (.start stack.reverse)) ↔
      ∃ constants result, body = constants ++ [.endBlock] ∧
        (∀ instruction ∈ constants, instruction.IsConstant scope.module scope.features) ∧
        scope.module.evaluate constants stack = some [result] ∧
        scope.module.types.compatible result type = true := by
  induction body generalizing stack with
  | nil => simp [Completes]
  | cons instruction rest ih =>
      have restTabled : ∀ op, .numeric .binary op ∈ rest → op ∈ Opcode.all :=
        fun op member => tabled op (List.mem_cons_of_mem _ member)
      by_cases last : instruction = .endBlock
      · subst last
        rw [initializer_completes_end_iff initializer]
        constructor
        · rintro ⟨⟨result, rfl, fits⟩, rfl⟩
          exact ⟨[], result, rfl, List.forall_mem_nil _, rfl, fits⟩
        · rintro ⟨constants, result, split, each, evaluated, fits⟩
          cases constants with
          | nil =>
              cases split
              exact ⟨⟨result, Option.some.inj evaluated, fits⟩, rfl⟩
          | cons first others =>
              -- the `end` itself is no constant instruction
              cases split
              cases each .endBlock List.mem_cons_self
      · have tabledHere : ∀ op, instruction = .numeric .binary op → op ∈ Opcode.all :=
          fun op same => tabled op (same ▸ List.mem_cons_self)
        rw [initializer_completes_cons_iff initializer last tabledHere]
        simp only [ih restTabled]
        constructor
        · rintro ⟨constant, left, stepped, constants, result, rfl, each, evaluated, fits⟩
          refine ⟨instruction :: constants, result, rfl, ?_, ?_, fits⟩
          · exact List.forall_mem_cons.mpr ⟨constant, each⟩
          · rw [Module.evaluate, stepped, Option.bind_some, evaluated]
        · rintro ⟨constants, result, split, each, evaluated, fits⟩
          cases constants with
          | nil =>
              cases split
              exact absurd rfl last
          | cons first others =>
              cases split
              obtain ⟨constant, each⟩ := List.forall_mem_cons.mp each
              obtain ⟨left, stepped, continued⟩ := Option.bind_eq_some_iff.mp evaluated
              exact ⟨constant, left, stepped, others, result, rfl, each, continued, fits⟩

end Scope

/-- An initializer of a type is accepted exactly when it consists of constant
instructions and a final `end`, and evaluates as a postfix program to one value that
may be used where the type is required. Binary opcodes are those of the table. -/
theorem initializers_evaluate_constants (validator : Validator) (type : ValueType)
    (body : List Instruction)
    (tabled : ∀ op, .numeric .binary op ∈ body → op ∈ Opcode.all) :
    (validator.validateInitExpr type body).verdict = .ok () ↔
      ∃ constants result, body = constants ++ [.endBlock] ∧
        (∀ instruction ∈ constants,
          instruction.IsConstant validator.module validator.config.features) ∧
        validator.module.evaluate constants [] = some [result] ∧
        validator.module.types.compatible result type = true := by
  let scope : Scope := ⟨validator.module, validator.config.features, [], .initExpr type⟩
  have begun : scope.opening.run.accepted scope.environment .empty =
      some ((Surroundings.initializer type).state (.start [])) := rfl
  have walked := scope.initializer_completes_iff rfl body tabled []
  rw [← walked]
  show (scope.validate validator.config validator.diagnostics body).verdict = .ok () ↔ _
  rw [scope.validate_verdict_ok_iff, begun]
  simp only [Option.some.injEq, exists_eq_left']
  rfl

/-- A sum of an imported size and a constant. -/
theorem sum_evaluates_constants :
    let add : Opcode := ⟨"i32.add", [.i32, .i32], some .i32, 0, 0, false⟩
    let module : Module := { Module.empty with globals := [⟨.i32, false⟩] }
    let body : List Instruction :=
      [.globalGet 0, .i32Const 5, .numeric .binary add, .endBlock]
    (∀ op, .numeric .binary op ∈ body → op ∈ Opcode.all) ∧
      ((Validator.start module ⟨.all, false, 100⟩).validateInitExpr .i32 body).verdict =
        .ok () := by
  intro add module body
  have tabled : ∀ op, .numeric .binary op ∈ body → op ∈ Opcode.all := by
    intro op member
    have same : op = add := by simpa [body] using member
    rw [same]
    decide +kernel
  have each : ∀ instruction ∈ [.globalGet 0, .i32Const 5, .numeric .binary add],
      Instruction.IsConstant module .all instruction := by
    simp only [List.forall_mem_cons]
    exact ⟨.globalGet rfl, .i32Const 5, .arithmetic rfl (by decide), nofun⟩
  refine ⟨tabled, ?_⟩
  rw [initializers_evaluate_constants _ _ _ tabled]
  exact ⟨_, .i32, rfl, each, by decide, by decide⟩

end WasmTyping
