import Mathlib.Control.Monad.Basic
import WasmTyping.Proofs.RegionExecution
import WasmTyping.Proofs.Relaxation

/-!
# Dead code markers

To mark a region unreachable forgets its operands and lets any operand be found in
their place. So a state in which some regions know less accepts whatever the state
accepts that knows more, and `unreachable` may be written anywhere inside an accepted
body.
-/

set_option autoImplicit false

namespace WasmTyping

/-- The second type says the same as the first or nothing. -/
def ValueType.Forgets (type found : ValueType) : Prop :=
  found = type ∨ found = .any

/-! ## Regions that know less -/

/-- The second region knows at most the topmost operands of the first, and all of them
unless it is dead. -/
structure Region.Looser (region looser : Region) : Prop where
  known : ∀ (depth : Nat) (found : ValueType), looser.operands.reverse[depth]? = some found →
    ∃ type : ValueType, region.operands.reverse[depth]? = some type ∧ type.Forgets found
  alive : looser.dead = false →
    region.dead = false ∧ region.operands.length ≤ looser.operands.length

namespace Region.Looser

theorem refl (region : Region) : region.Looser region where
  known _ found seen := ⟨found, seen, .inl rfl⟩
  alive living := ⟨living, Nat.le_refl _⟩

theorem unknown (region : Region) : region.Looser .unknown where
  known _ _ seen := by simp [Region.unknown] at seen
  alive living := by cases living

variable {region looser : Region} (loose : region.Looser looser)

include loose

theorem peek {depth : Nat} {type : ValueType} (seen : region.peek? depth = some type) :
    ∃ found, looser.peek? depth = some found ∧ type.Forgets found := by
  unfold Region.peek? at seen ⊢
  cases there : looser.operands.reverse[depth]? with
  | some found =>
      obtain ⟨type', here, forgets⟩ := loose.known depth found there
      rw [here] at seen
      cases seen
      exact ⟨found, rfl, forgets⟩
  | none =>
      cases living : looser.dead with
      | true => exact ⟨.any, rfl, .inr rfl⟩
      | false =>
          -- a living region knows all operands of the first, so nothing was seen there
          obtain ⟨living', short⟩ := loose.alive living
          have beyond : looser.operands.length ≤ depth := by
            simpa using List.getElem?_eq_none_iff.mp there
          have missing : region.operands.reverse[depth]? = none := by
            apply List.getElem?_eq_none
            rw [List.length_reverse]
            omega
          simp [missing, living'] at seen

theorem push {type found : ValueType} (forgets : type.Forgets found) :
    (region.push [type]).Looser (looser.push [found]) where
  known depth seen there := by
    simp only [Region.push, List.reverse_append, List.reverse_singleton,
      List.singleton_append] at there ⊢
    cases depth with
    | zero =>
        cases there
        exact ⟨type, rfl, forgets⟩
    | succ depth => exact loose.known depth seen there
  alive living := by
    obtain ⟨living', short⟩ := loose.alive living
    simp only [Region.push, List.length_append, List.length_singleton]
    exact ⟨living', by omega⟩

theorem discard (count : Nat) : (region.discard count).Looser (looser.discard count) where
  known depth found there := by
    simp only [Region.discard, ← List.drop_reverse, List.getElem?_drop] at there ⊢
    exact loose.known (count + depth) found there
  alive living := by
    obtain ⟨living', short⟩ := loose.alive living
    simp only [Region.discard, List.length_take]
    exact ⟨living', by omega⟩

theorem operands_nil (empty : region.operands = []) : looser.operands = [] := by
  cases there : looser.operands.reverse with
  | nil => exact List.reverse_eq_nil_iff.mp there
  | cons found rest =>
      obtain ⟨type, here, -⟩ := loose.known 0 found (by rw [there]; rfl)
      simp [empty] at here

end Region.Looser

/-! ## States that know less -/

/-- The second state has the labels of the first, and each of its regions is looser. -/
inductive State.Looser : State → State → Prop where
  | closed (operands operands' : List ValueType) (kept : Option (List ValueType)) :
      Looser ⟨operands, [], kept⟩ ⟨operands', [], kept⟩
  | opened {around around' : Surroundings} {region region' : Region}
      {kept : Option (List ValueType)}
      (enclosing : Looser around.outside around'.outside) (kind : around'.kind = around.kind)
      (params : around'.params = around.params) (results : around'.results = around.results)
      (inside : region.Looser region') :
      Looser (around.keeping region kept) (around'.keeping region' kept)

namespace State.Looser

variable {state looser : State} (loose : state.Looser looser)

include loose

theorem shapes : looser.labels.map Label.shape = state.labels.map Label.shape := by
  induction loose with
  | closed => rfl
  | @opened around around' region region' kept enclosing kind params results inside ih =>
      show (around'.label region'.dead).shape :: around'.outside.labels.map Label.shape =
        (around.label region.dead).shape :: around.outside.labels.map Label.shape
      rw [ih, Label.shape, Label.shape, Surroundings.label, Surroundings.label, kind, params,
        results]

theorem table_types : looser.tableTypes = state.tableTypes := by
  cases loose <;> rfl

theorem keep_table (types : Option (List ValueType)) :
    State.Looser { state with tableTypes := types } { looser with tableTypes := types } := by
  cases loose with
  | closed operands operands' => exact .closed operands operands' types
  | opened enclosing kind params results inside =>
      exact .opened enclosing kind params results inside

theorem peek {depth : Nat} {type : ValueType} (seen : state.peek depth = .ok type) :
    ∃ found, looser.peek depth = .ok found ∧ type.Forgets found := by
  cases loose with
  | closed operands operands' kept => cases seen
  | @opened around around' region region' kept enclosing kind params results inside =>
      have here : (around.state region).peek depth = .ok type := seen
      rw [around.state_peek] at here
      cases found : region.peek? depth with
      | none => simp [found] at here
      | some type' =>
          simp only [found, Except.ok.injEq] at here
          subst here
          obtain ⟨type', found', forgets⟩ := inside.peek found
          refine ⟨type', ?_, forgets⟩
          show (around'.state region').peek depth = .ok type'
          rw [around'.state_peek, found']

theorem empty_region (opened : state.labels ≠ []) (empty : emptyVerdict state = .ok ()) :
    emptyVerdict looser = .ok () := by
  cases loose with
  | closed operands operands' kept => exact absurd rfl opened
  | opened enclosing kind params results inside =>
      have nothing := (empty_verdict_ok_iff _ _).mp empty
      exact (empty_verdict_ok_iff _ _).mpr (inside.operands_nil nothing)

theorem push_one {type found : ValueType} (forgets : type.Forgets found) :
    (state.push [type]).Looser (looser.push [found]) := by
  cases loose with
  | closed operands operands' kept => exact .closed _ _ kept
  | opened enclosing kind params results inside =>
      rw [Surroundings.keeping_push, Surroundings.keeping_push]
      exact .opened enclosing kind params results (inside.push forgets)

theorem push {types found : List ValueType}
    (forget : List.Forall₂ ValueType.Forgets types found) :
    (state.push types).Looser (looser.push found) := by
  induction forget generalizing state looser with
  | nil => simpa [State.push] using loose
  | cons here _ ih =>
      have pushed := ih (loose.push_one here)
      simpa [State.push] using pushed

theorem remove (count : Nat) : (state.remove count).Looser (looser.remove count) := by
  cases loose with
  | closed operands operands' kept => exact .closed operands operands' kept
  | opened enclosing kind params results inside =>
      rw [Surroundings.keeping_remove, Surroundings.keeping_remove]
      exact .opened enclosing kind params results (inside.discard count)

/-- To mark the looser state alone unreachable loosens it further. -/
theorem forget_region : state.Looser looser.markUnreachable := by
  cases loose with
  | closed operands operands' kept => exact .closed operands operands' kept
  | opened enclosing kind params results inside =>
      rw [Surroundings.keeping_mark_unreachable]
      exact .opened enclosing kind params results (.unknown _)

theorem mark_unreachable : state.markUnreachable.Looser looser.markUnreachable := by
  cases loose with
  | closed operands operands' kept => exact .closed operands operands' kept
  | opened enclosing kind params results inside =>
      rw [Surroundings.keeping_mark_unreachable, Surroundings.keeping_mark_unreachable]
      exact .opened enclosing kind params results (.unknown _)

theorem enter (kind : LabelKind) (params results : List ValueType) :
    (state.enter kind params results).Looser (looser.enter kind params results) := by
  have entered (outside : State) : outside.enter kind params results =
      Surroundings.keeping ⟨outside.operands, kind, params, results, outside.labels⟩ (.start params)
        outside.tableTypes := rfl
  rw [entered, entered, loose.table_types]
  exact .opened (loose.keep_table none) rfl rfl rfl (.refl _)

theorem begin_arm (kind : LabelKind) (types : List ValueType) :
    (state.beginArm kind types).Looser (looser.beginArm kind types) := by
  cases loose with
  | closed operands operands' kept => exact .closed operands operands' kept
  | opened enclosing _ params results inside =>
      rw [Surroundings.keeping_begin_arm, Surroundings.keeping_begin_arm]
      exact .opened enclosing rfl params results (.refl _)

theorem leave : state.leave.Looser looser.leave := by
  cases loose with
  | closed operands operands' kept => exact .closed operands operands' kept
  | opened enclosing kind params results inside =>
      rw [Surroundings.keeping_leave, Surroundings.keeping_leave, results]
      apply keep_table
      exact enclosing.push (List.forall₂_same.mpr fun type _ => .inl rfl)

end State.Looser

/-- A looser state accepts whatever the other state accepts. -/
def forgetting (env : Environment) : Relaxation env env where
  related := State.Looser
  stands := ValueType.Forgets
  stands_self type := .inl rfl
  stands_non_null := by
    rintro type found (rfl | rfl)
    · exact .inl rfl
    · exact .inr rfl
  stands_compatible := by
    rintro type found expected (rfl | rfl) fits
    · exact fits
    · exact Registry.any_compatible env.types expected
  stands_reference := by
    rintro type found (rfl | rfl) allowed
    · exact allowed
    · rfl
  stands_selected := by
    rintro first second first' second' left right known fits
    obtain ⟨firstKnown, secondKnown⟩ := Bool.or_eq_false_iff.mp known
    rcases left with rfl | rfl
    · rcases right with rfl | rfl
      · exact ⟨known, fits⟩
      · exact ⟨Bool.or_eq_false_iff.mpr ⟨firstKnown, rfl⟩, Registry.compatible_any _ _⟩
    · refine ⟨Bool.or_eq_false_iff.mpr ⟨rfl, ?_⟩, Registry.any_compatible _ _⟩
      rcases right with rfl | rfl
      · exact secondKnown
      · rfl
  all_compatible fits := fits
  get_type found := found
  targets_agree agree := agree
  start := .closed [] [] none
  shapes loose := loose.shapes
  table_types loose := loose.table_types
  peek loose seen := loose.peek seen
  empty_region loose opened empty := loose.empty_region opened empty
  push loose stand := loose.push stand
  remove loose count := loose.remove count
  keep_table loose types := loose.keep_table types
  mark_unreachable loose := loose.mark_unreachable
  enter loose kind params results := loose.enter kind params results
  begin_arm loose kind types := loose.begin_arm kind types
  leave loose := loose.leave

/-! ## Markers in a body -/

namespace Scope

variable {scope : Scope}

theorem completes_of_looser {body : List Instruction} {state looser : State}
    (loose : state.Looser looser) (completes : scope.Completes body state) :
    scope.Completes body looser :=
  (forgetting scope.environment).completes
    (fun _ _ => (forgetting scope.environment).run_all_carries _) loose completes

theorem unreachable_advance {results : List ValueType} (function : scope.kind = .function results)
    {state : State} (opened : state.labels ≠ []) :
    scope.advance state .unreachable = some state.markUnreachable := by
  obtain ⟨label, outer, labels⟩ := List.exists_cons_of_ne_nil opened
  rw [advance_eq function]
  show (Action.runAll [.perform .unreachable]).accepted scope.environment state = _
  rw [Action.run_all_perform_accepted]
  have marked : (Operation.run .unreachable scope.environment state).result = .ok () := by
    rw [Operation.run, Check.set_unreachable_of_open labels]
  rw [Check.accepted_of_ok marked, Operation.run, Check.set_unreachable_state]

/-- A state that is a looser form of itself stays one along an accepted body, so that a
marker can be put anywhere before its last instruction. -/
theorem completes_with_marker {results : List ValueType}
    (function : scope.kind = .function results) {before after : List Instruction}
    (rest : after ≠ []) {state : State} (loose : state.Looser state) (opened : state.labels ≠ [])
    (completes : scope.Completes (before ++ after) state) :
    scope.Completes (before ++ .unreachable :: after) state := by
  induction before generalizing state with
  | nil =>
      have stays : state.markUnreachable.labels ≠ [] := by
        obtain ⟨label, outer, labels⟩ := List.exists_cons_of_ne_nil opened
        simp [State.markUnreachable, labels]
      refine ⟨state.markUnreachable, unreachable_advance function opened, ?_⟩
      rw [if_neg stays]
      -- the marker loosens the state, and the rest was accepted without it
      exact completes_of_looser loose.forget_region completes
  | cons instruction before ih =>
      obtain ⟨next, taken, goes⟩ := completes
      have remains : before ++ after ≠ [] := by simp [rest]
      have stays : next.labels ≠ [] := by
        intro closed
        rw [if_pos closed] at goes
        exact remains goes
      rw [if_neg stays] at goes
      refine ⟨next, taken, ?_⟩
      rw [if_neg stays]
      refine ih ?_ stays goes
      -- both runs take the same step, so the state reached is looser than itself
      obtain ⟨next', taken', loose'⟩ :=
        ((forgetting scope.environment).run_all_carries _).accepted loose taken
      cases taken.symm.trans taken'
      exact loose'

end Scope

/-- An accepted function body stays accepted when `unreachable` is put anywhere before
its last instruction. -/
theorem markers_keep_acceptance (validator : Validator) (index : Nat) (locals : List ValueType)
    (before after : List Instruction) (rest : after ≠ [])
    (accepted : (validator.validateFunction index locals (before ++ after)).verdict = .ok ()) :
    (validator.validateFunction index locals (before ++ .unreachable :: after)).verdict =
      .ok () := by
  rw [Validator.validate_function_ok_iff] at accepted ⊢
  obtain ⟨type, found, completes⟩ := accepted
  have loose := (State.Looser.closed [] [] none).enter .function [] type.results
  exact ⟨type, found,
    Scope.completes_with_marker rfl rest loose (List.cons_ne_nil _ _) completes⟩

/-- A marker after the operands of a `select` inside a block, with a conditional to
follow. -/
theorem marker_keeps_selection :
    let types : Registry := Registry.empty.insert 0 ⟨[.i32], [.i32]⟩
    let validator := Validator.start { Module.ofTypes types with functions := [0] } ⟨.all, true, 1⟩
    let before : List Instruction :=
      [.localGet 0, .enter .block (.index 0), .i32Const 1, .localGet 0]
    let after : List Instruction :=
      [.select none, .enter .ifThen (.value .i32), .i32Const 2, .elseArm, .i32Const 3, .endBlock,
        .endBlock, .endBlock]
    (validator.validateFunction 0 [] (before ++ after)).verdict = .ok () ∧
      (validator.validateFunction 0 [] (before ++ .unreachable :: after)).verdict = .ok () := by
  intro types validator before after
  have accepted : (validator.validateFunction 0 [] (before ++ after)).verdict = .ok () := by
    decide +kernel
  exact ⟨accepted,
    markers_keep_acceptance validator 0 [] before after (List.cons_ne_nil _ _) accepted⟩

end WasmTyping
