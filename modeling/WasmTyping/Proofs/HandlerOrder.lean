import WasmTyping.Proofs.ContainedForms

/-!
# Handlers stand in any order

A `catch` and a `catch_all` arm both belong to a `try`, and the label of an arm does not
tell them apart. Every arm has to end in the results of the `try` and begins in the
surroundings of the `try` with its own values. So the arms can be checked one by one, and
whether a body is accepted depends on which arms a `try` has and not on their order: an
arm may follow a `catch_all`.
-/

set_option autoImplicit false

namespace WasmTyping

/-- The handlers of a `try` with their code. -/
def Handlers.arms : Handlers → List (Handler × Forms)
  | .done => []
  | .handler head body rest => (head, body) :: rest.arms

/-! ## Where an arm stands -/

/-- The code before and after the head of an arm: the arm belongs to a `try` that begins
before it and ends after it. -/
def ArmOfTry (before after : List Instruction) : Prop :=
  ∃ (start : List Instruction) (type : BlockType) (guarded : Forms) (earlier : Handlers)
    (own : Forms) (later : Handlers) (rest : List Instruction),
    before = start ++ .enter .tryBlock type :: (guarded.flatten ++ earlier.flatten) ∧
      after = own.flatten ++ (later.flatten ++ .endBlock :: rest)

theorem ArmOfTry.within {before after : List Instruction} (arm : ArmOfTry before after)
    (first last : List Instruction) : ArmOfTry (first ++ before) (after ++ last) := by
  obtain ⟨start, type, guarded, earlier, own, later, rest, rfl, rfl⟩ := arm
  exact ⟨first ++ start, type, guarded, earlier, own, later, rest ++ last, by simp, by simp⟩

/-- Every arm with the given head belongs to a `try` of the code. -/
def Handler.Placed (head : Handler) (code : List Instruction) : Prop :=
  ∀ before after, code = before ++ head.instruction :: after → ArmOfTry before after

/-- An entry of two joined lists is in the first or in the second one. -/
theorem append_eq_append_cons {α : Type} {first second before after : List α} {entry : α}
    (same : first ++ second = before ++ entry :: after) :
    (∃ between, first = before ++ entry :: between ∧ after = between ++ second) ∨
      ∃ between, before = first ++ between ∧ second = between ++ entry :: after := by
  rcases List.append_eq_append_iff.mp same with ⟨between, rfl, equal⟩ | ⟨between, rfl, equal⟩
  · exact .inr ⟨between, rfl, equal⟩
  · cases between with
    | nil => exact .inr ⟨[], by simp, by simpa using equal.symm⟩
    | cons other between =>
        obtain ⟨rfl, rfl⟩ := List.cons.inj equal
        exact .inl ⟨between, rfl, rfl⟩

namespace Handler.Placed

variable {head : Handler} {code more : List Instruction}

theorem nil : head.Placed [] := by
  intro before after same
  simp at same

theorem cons {instruction : Instruction} (other : instruction ≠ head.instruction)
    (placed : head.Placed code) : head.Placed (instruction :: code) := by
  intro before after same
  cases before with
  | nil => exact absurd (List.cons.inj same).1 other
  | cons first between =>
      obtain ⟨rfl, tail⟩ := List.cons.inj same
      simpa using (placed between after tail).within [instruction] []

theorem append (placed : head.Placed code) (others : head.Placed more) :
    head.Placed (code ++ more) := by
  intro before after same
  rcases append_eq_append_cons same with ⟨between, inside, rfl⟩ | ⟨between, rfl, inside⟩
  · simpa using (placed before between inside).within [] more
  · simpa using (others between after inside).within code []

end Handler.Placed

/-- An arm of some handlers is one of their own or belongs to a `try` in their code. -/
def Handlers.Placed (handlers : Handlers) (head : Handler) : Prop :=
  ∀ before after, handlers.flatten = before ++ head.instruction :: after →
    (∃ (earlier : Handlers) (own : Forms) (later : Handlers),
      before = earlier.flatten ∧ after = own.flatten ++ later.flatten) ∨ ArmOfTry before after

theorem Handler.Placed.try_catch {head : Handler} (type : BlockType) {body : Forms}
    {handlers : Handlers} {code : List Instruction} (guarded : head.Placed body.flatten)
    (arms : handlers.Placed head) (placed : head.Placed code) :
    head.Placed (.enter .tryBlock type ::
      (body.flatten ++ (handlers.flatten ++ .endBlock :: code))) := by
  intro before after same
  cases before with
  | nil =>
      obtain ⟨begun, -⟩ := List.cons.inj same
      cases head <;> cases begun
  | cons first between =>
      obtain ⟨rfl, tail⟩ := List.cons.inj same
      rcases append_eq_append_cons tail with ⟨upTo, inside, rfl⟩ | ⟨upTo, rfl, beyond⟩
      · simpa using (guarded between upTo inside).within [.enter .tryBlock type]
          (handlers.flatten ++ .endBlock :: code)
      · rcases append_eq_append_cons beyond with ⟨onward, inside, rfl⟩ | ⟨onward, rfl, last⟩
        · rcases arms upTo onward inside with ⟨earlier, own, later, rfl, rfl⟩ | nested
          · exact ⟨[], type, body, earlier, own, later, code, by simp, by simp⟩
          · simpa using nested.within (.enter .tryBlock type :: body.flatten) (.endBlock :: code)
        · have closing : Instruction.endBlock ≠ head.instruction := by
            cases head <;> exact Instruction.noConfusion
          simpa using (placed.cons closing onward after last).within
            (.enter .tryBlock type :: (body.flatten ++ handlers.flatten)) []

mutual

/-- In structured code every arm belongs to a `try`. -/
theorem Forms.placed (forms : Forms) (head : Handler) : head.Placed forms.flatten := by
  have closing : Instruction.endBlock ≠ head.instruction := by
    cases head <;> exact Instruction.noConfusion
  cases forms with
  | done => exact .nil
  | plain instruction isPlain rest =>
      refine .cons ?_ (rest.placed head)
      rintro rfl
      cases head <;> cases isPlain
  | region opener body rest =>
      refine .cons ?_ (.append (body.placed head) (.cons closing (rest.placed head)))
      cases opener <;> cases head <;> exact Instruction.noConfusion
  | ifThen type arm rest =>
      refine .cons ?_ (.append (arm.placed head) (.cons closing (rest.placed head)))
      cases head <;> exact Instruction.noConfusion
  | ifElse type arm other rest =>
      refine .cons ?_ (.append (arm.placed head)
        (.cons ?_ (.append (other.placed head) (.cons closing (rest.placed head)))))
      · cases head <;> exact Instruction.noConfusion
      · cases head <;> exact Instruction.noConfusion
  | tryCatch type body handlers rest =>
      exact .try_catch type (body.placed head) (handlers.placed head) (rest.placed head)
  | tryDelegate type body depth rest =>
      refine .cons ?_ (.append (body.placed head) (.cons ?_ (rest.placed head)))
      · cases head <;> exact Instruction.noConfusion
      · cases head <;> exact Instruction.noConfusion

theorem Handlers.placed (handlers : Handlers) (head : Handler) : handlers.Placed head := by
  intro before after same
  cases handlers with
  | done => simp [Handlers.flatten] at same
  | handler first body rest =>
      cases before with
      | nil => exact .inl ⟨.done, body, rest, rfl, (List.cons.inj same).2.symm⟩
      | cons instruction between =>
          obtain ⟨rfl, tail⟩ := List.cons.inj same
          rcases append_eq_append_cons tail with ⟨upTo, inside, rfl⟩ | ⟨upTo, rfl, beyond⟩
          · right
            simpa using (body.placed head between upTo inside).within [first.instruction]
              rest.flatten
          · rcases rest.placed head upTo after beyond with
              ⟨earlier, own, later, rfl, rfl⟩ | nested
            · exact .inl ⟨.handler first body earlier, own, later, rfl, rfl⟩
            · right
              simpa using nested.within (first.instruction :: body.flatten) []

end

/-! ## Arms one by one -/

namespace Scope

variable {scope : Scope} {results : List ValueType}

/-- An arm of a `try` is accepted: it runs from its values to the results of the `try`. -/
def Handles (scope : Scope) (around : Surroundings) (inner : Region)
    (params returned : List ValueType) (arm : Handler × Forms) : Prop :=
  ∃ values left, scope.caught? arm.1 = some values ∧
    scope.pass arm.2.flatten
      ((around.nest inner .catchArm params returned).state (.start values)) =
        some ((around.nest inner .catchArm params returned).state left) ∧
    left.endsIn scope.module.types returned = true

variable (function : scope.kind = .function results) (around : Surroundings) (inner : Region)
  (params returned : List ValueType)

include function

theorem completes_handler_iff {kind : LabelKind} (left : Region)
    (caught : LabelRule.catchAfterTry.allows kind = true) (head : Handler)
    (rest : List Instruction) :
    scope.Completes (head.instruction :: rest)
      ((around.nest inner kind params returned).state left) ↔
        left.endsIn scope.module.types returned = true ∧
          ∃ values, scope.caught? head = some values ∧ scope.Completes rest
            ((around.nest inner .catchArm params returned).state (.start values)) := by
  rw [Completes, handler_advance function caught head]
  cases scope.caught? head with
  | none => simp
  | some values =>
      have opened : ((around.nest inner .catchArm params returned).state
          (.start values)).labels ≠ [] := List.cons_ne_nil _ _
      by_cases ends : left.endsIn scope.module.types returned = true
      · simp [ends, opened]
      · simp [ends]

/-- The end of a `try` is reached exactly if each arm is accepted for itself. -/
theorem completes_handlers_iff (handlers : Handlers) {kind : LabelKind} (left : Region)
    (caught : LabelRule.catchAfterTry.allows kind = true) (rest : List Instruction) :
    scope.Completes (handlers.flatten ++ .endBlock :: rest)
      ((around.nest inner kind params returned).state left) ↔
        left.endsIn scope.module.types returned = true ∧
          (∀ arm ∈ handlers.arms, scope.Handles around inner params returned arm) ∧
            scope.Completes rest (around.state (inner.push returned)) := by
  cases handlers with
  | done =>
      have plain : kind ≠ LabelKind.ifThen := by
        rintro rfl
        cases caught
      have ended := completes_end_iff function around inner kind params returned left rest plain
      simpa [Handlers.flatten, Handlers.arms] using ended
  | handler head body more =>
      rw [Handlers.handler_append, completes_handler_iff function around inner params returned
        left caught, Handlers.arms, List.forall_mem_cons]
      refine and_congr_right fun _ => ?_
      constructor
      · rintro ⟨values, begun, completes⟩
        obtain ⟨_, passed, completes⟩ := (completes_append_iff (by simp)).mp completes
        obtain ⟨last, rfl⟩ := body.contained function passed
        obtain ⟨ends, others, after⟩ :=
          (completes_handlers_iff more last rfl rest).mp completes
        exact ⟨⟨⟨values, last, begun, passed, ends⟩, others⟩, after⟩
      · rintro ⟨⟨⟨values, last, begun, passed, ends⟩, others⟩, after⟩
        refine ⟨values, begun, (completes_append_iff (by simp)).mpr ⟨_, passed, ?_⟩⟩
        exact (completes_handlers_iff more last rfl rest).mpr ⟨ends, others, after⟩

/-- Where a `try` stands between instructions, its arms can be exchanged. -/
theorem completes_try_congr {handlers others : Handlers}
    (same : ∀ arm, arm ∈ handlers.arms ↔ arm ∈ others.arms) (type : BlockType) (guarded : Forms)
    (region : Region) (rest : List Instruction) :
    scope.Completes (.enter .tryBlock type ::
      (guarded.flatten ++ (handlers.flatten ++ .endBlock :: rest))) (around.state region) ↔
    scope.Completes (.enter .tryBlock type ::
      (guarded.flatten ++ (others.flatten ++ .endBlock :: rest))) (around.state region) := by
  simp only [← List.cons_append]
  rw [completes_append_iff (by simp), completes_append_iff (by simp)]
  refine exists_congr fun next => and_congr_right fun passed => ?_
  obtain ⟨inner, params, returned, passed⟩ := pass_opening function passed
  obtain ⟨left, rfl⟩ := guarded.contained function passed
  rw [completes_handlers_iff function around inner params returned handlers left rfl,
    completes_handlers_iff function around inner params returned others left rfl]
  simp only [same]

end Scope

/-! ## States between instructions -/

/-- What holds between two instructions of a body. -/
structure State.Settled (state : State) : Prop where
  opened : state.labels ≠ []
  disciplined : state.Disciplined
  finished : state.tableTypes = none

theorem State.Settled.splits {state : State} (settled : state.Settled) :
    ∃ (around : Surroundings) (region : Region), state = around.state region := by
  obtain ⟨label, outer, opened⟩ := List.exists_cons_of_ne_nil settled.opened
  have split := State.eq_keeping opened settled.disciplined.grounded
  rw [settled.finished] at split
  exact ⟨_, _, split⟩

theorem State.Settled.pass {scope : Scope} {results : List ValueType}
    (function : scope.kind = .function results) {code : List Instruction} {state final : State}
    (settled : state.Settled) (passed : scope.pass code state = some final) : final.Settled := by
  induction code generalizing state with
  | nil =>
      cases passed
      exact settled
  | cons instruction rest ih =>
      obtain ⟨next, advanced, opened, passed⟩ := Scope.pass_cons_eq_some_iff.mp passed
      refine ih ⟨opened, ?_, Scope.advance_table_none function settled.finished advanced⟩ passed
      rw [← Check.state_of_accepted advanced]
      exact Action.run_all_disciplined settled.disciplined _ _

/-! ## Accepted bodies -/

/-- In an accepted body every `catch` and every `catch_all` arm belongs to a `try`: it comes
after the code of the `try` and any earlier arms, and before any later arms and the `end`.
Which arms these are is not restricted further. Whether a body is accepted depends only on
which arms a `try` has: it is accepted exactly if it is with the same arms in another
order, or repeated. -/
theorem handlers_stand_in_any_order (validator : Validator) (index : Nat)
    (locals : List ValueType) :
    (∀ (body before after : List Instruction) (head : Handler),
      (validator.validateFunction index locals body).verdict = .ok () →
      body = before ++ head.instruction :: after → ArmOfTry before after) ∧
    ∀ (before after : List Instruction) (type : BlockType) (guarded : Forms)
      (handlers others : Handlers), (∀ arm, arm ∈ handlers.arms ↔ arm ∈ others.arms) →
      ((validator.validateFunction index locals (before ++ .enter .tryBlock type ::
          (guarded.flatten ++ (handlers.flatten ++ .endBlock :: after)))).verdict = .ok () ↔
        (validator.validateFunction index locals (before ++ .enter .tryBlock type ::
          (guarded.flatten ++ (others.flatten ++ .endBlock :: after)))).verdict = .ok ()) := by
  constructor
  · intro body before after head accepted same
    obtain ⟨type, -, completes⟩ :=
      (validator.validate_function_ok_iff index locals body).mp accepted
    obtain ⟨forms, rfl⟩ :=
      (Scope.completes_remainder rfl (List.cons_ne_nil _ _) completes).of_function
    have closing : Instruction.endBlock ≠ head.instruction := by
      cases head <;> exact Instruction.noConfusion
    exact (forms.placed head).append (.cons closing .nil) before after same
  · intro before after type guarded handlers others same
    rw [validator.validate_function_ok_iff, validator.validate_function_ok_iff]
    refine exists_congr fun signature => and_congr_right fun _ => ?_
    rw [Scope.completes_append_iff (by simp), Scope.completes_append_iff (by simp)]
    refine exists_congr fun state => and_congr_right fun passed => ?_
    have begun : (State.empty.enter .function [] signature.results).Settled :=
      ⟨List.cons_ne_nil _ _, State.empty_disciplined.enter _ _ _, rfl⟩
    obtain ⟨around, region, rfl⟩ := (begun.pass rfl passed).splits
    exact Scope.completes_try_congr rfl around same type guarded region after

/-- A handler of a tag that carries a value and one for all exceptions, exchanged. -/
theorem tag_may_follow_catch_all :
    let types : Registry := (Registry.empty.insert 0 ⟨[], [.i32]⟩).insert 1 ⟨[.i32], []⟩
    let module := { Module.ofTypes types with functions := [0], tags := [1] }
    let validator := Validator.start module ⟨.all, true, 1⟩
    let guarded : Forms := .plain .unreachable rfl .done
    let tagged : Handlers → Handlers := .handler (.tag 0) .done
    let all : Handlers → Handlers := .handler .all (.plain (.i32Const 0) rfl .done)
    let body (handlers : Handlers) : List Instruction :=
      [.nop] ++ .enter .tryBlock (.value .i32) ::
        (guarded.flatten ++ (handlers.flatten ++ [.endBlock, .endBlock]))
    (validator.validateFunction 0 [] (body (tagged (all .done)))).verdict = .ok () ∧
      (validator.validateFunction 0 [] (body (all (tagged .done)))).verdict = .ok () ∧
      ArmOfTry [.nop, .enter .tryBlock (.value .i32), .unreachable, .catchAll, .i32Const 0]
        [.endBlock, .endBlock] := by
  intro types module validator guarded tagged all body
  obtain ⟨placed, exchanged⟩ := handlers_stand_in_any_order validator 0 []
  have accepted : (validator.validateFunction 0 [] (body (tagged (all .done)))).verdict =
      .ok () := by
    decide +kernel
  have same : ∀ arm, arm ∈ (tagged (all .done)).arms ↔ arm ∈ (all (tagged .done)).arms := by
    intro arm
    simp [tagged, all, Handlers.arms, or_comm]
  have swapped := (exchanged [.nop] [.endBlock] (.value .i32) guarded _ _ same).mp accepted
  exact ⟨accepted, swapped, placed _ _ _ (.tag 0) swapped rfl⟩

/-- A `catch_all` arm need not be the last one of its `try`. -/
theorem catch_all_is_not_always_last :
    ¬ ∀ (validator : Validator) (index : Nat) (locals : List ValueType)
      (before after : List Instruction) (type : BlockType) (guarded : Forms)
      (handlers : Handlers),
      (validator.validateFunction index locals (before ++ .enter .tryBlock type ::
        (guarded.flatten ++ (handlers.flatten ++ .endBlock :: after)))).verdict = .ok () →
      ∀ (earlier later : List (Handler × Forms)) (body : Forms),
        handlers.arms = earlier ++ (.all, body) :: later → later = [] := by
  intro last
  let types : Registry := Registry.empty.insert 0 ⟨[], []⟩
  let validator := Validator.start { Module.ofTypes types with functions := [0] } ⟨.all, true, 1⟩
  let handlers : Handlers := .handler .all .done (.handler .all .done .done)
  have accepted : (validator.validateFunction 0 [] ([] ++ .enter .tryBlock .empty ::
      (Forms.done.flatten ++ (handlers.flatten ++ .endBlock :: [.endBlock])))).verdict =
        .ok () := by
    decide +kernel
  cases last validator 0 [] [] [.endBlock] .empty .done handlers accepted [] _ .done rfl

end WasmTyping
