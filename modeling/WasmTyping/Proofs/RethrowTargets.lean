import Mathlib.Data.List.Induction
import WasmTyping.Proofs.StackDiscipline

/-!
# Targets of `rethrow`

Three places say which open regions are `catch` regions: the check of a `rethrow`, the
depths that its complaint offers instead, and the count of the regions up to a depth. The
first asks for one label, the second goes through all of them, the third counts a part of
them. They agree in every state: what is offered and what is counted are the depths that
a `rethrow` would accept.
-/

set_option autoImplicit false

namespace WasmTyping

/-! ## Positions in a list -/

section Positions

variable {α : Type} (selects : α → Bool)

/-- The positions kept when a list is numbered are those of the entries selected. -/
theorem numbered_filter_eq (entries : List α) :
    (entries.zipIdx.filter fun entry => selects entry.1).map Prod.snd =
      (List.range entries.length).filter fun position => entries[position]?.any selects := by
  induction entries using List.reverseRecOn with
  | nil => rfl
  | append_singleton entries last ih =>
      have earlier : (List.range entries.length).filter
          (fun position => (entries ++ [last])[position]?.any selects) =
            (List.range entries.length).filter fun position =>
              entries[position]?.any selects := by
        apply List.filter_congr
        intro position member
        rw [List.getElem?_append_left (List.mem_range.mp member)]
      rw [List.zipIdx_append, List.filter_append, List.map_append, ih, List.length_append,
        List.length_singleton, List.range_succ, List.filter_append, earlier]
      cases chosen : selects last <;> simp [chosen]

/-- Entries of an initial part are counted by their positions. -/
theorem count_take_eq (entries : List α) (count : Nat) :
    (entries.take count).countP selects =
      (List.range count).countP fun position => entries[position]?.any selects := by
  induction count with
  | zero => rfl
  | succ count ih =>
      rw [List.take_add_one, List.countP_append, ih, List.range_succ, List.countP_append]
      cases found : entries[count]? <;> simp [found]

end Positions

/-! ## What a `rethrow` accepts -/

/-- Whether a depth names an open `catch` region. -/
def State.catchesAt (state : State) (depth : Nat) : Bool :=
  (state.label? depth).any fun label => label.kind = .catchArm

namespace State

variable {state : State} {depth : Nat}

theorem catches_at_iff (state : State) (depth : Nat) :
    state.catchesAt depth = true ↔
      ∃ label, state.label? depth = some label ∧ label.kind = .catchArm := by
  rw [catchesAt, Option.any_eq_true]
  simp

theorem catch_depths_eq (state : State) :
    state.catchDepths = (List.range state.labels.length).filter state.catchesAt :=
  numbered_filter_eq (fun label : Label => label.kind = .catchArm) state.labels

theorem lt_of_catches_at (catches : state.catchesAt depth = true) :
    depth < state.labels.length := by
  obtain ⟨label, found, -⟩ := (state.catches_at_iff depth).mp catches
  exact (List.getElem?_eq_some_iff.mp found).1

end State

namespace Check

variable {env : Environment} {state : State} {depth : Nat} {label : Label}

theorem rethrow_is_ok (env : Environment) (state : State) (depth : Nat) :
    (rethrow depth env state).result.isOk = state.catchesAt depth := by
  rw [Bool.eq_iff_iff, state.catches_at_iff]
  have asked := state.check_rethrow_ok_iff depth
  rw [rethrow]
  cases answer : state.checkRethrow depth with
  | error complaint =>
      rw [ask_bind_of_error answer]
      rw [answer] at asked
      constructor
      · intro accepted
        cases accepted
      · intro found
        cases asked.mpr found
  | ok _ =>
      obtain ⟨label, found, kind⟩ := asked.mp answer
      have opened : state.labels ≠ [] := List.ne_nil_of_mem (List.mem_of_getElem? found)
      rw [ask_bind_of_ok answer, set_unreachable_result opened]
      exact ⟨fun _ => ⟨label, found, kind⟩, fun _ => rfl⟩

/-- A `rethrow` to a region of another kind changes nothing and offers the depths of the
`catch` regions. -/
theorem rethrow_of_other (found : state.label? depth = some label)
    (other : label.kind ≠ .catchArm) :
    rethrow depth env state = ⟨.error .rethrowTarget, state,
      [.reported (if state.catchDepths = [] then .rethrowOutsideCatch
        else .rethrowTarget depth state.catchDepths)]⟩ := by
  have resolved := (state.resolve_eq_ok_iff depth label).mpr found
  have refused : state.checkRethrow depth = .error
      ⟨if state.catchDepths = [] then .rethrowOutsideCatch
        else .rethrowTarget depth state.catchDepths, .rethrowTarget⟩ := by
    simp only [State.checkRethrow, resolved, if_neg other, List.isEmpty_iff]
    split <;> rfl
  rw [rethrow, ask_bind_of_error refused]

theorem catch_count_result (env : Environment) (state : State) (depth : Nat) :
    (catchCount depth env state).result.toOption =
      (state.label? depth).map fun _ => (List.range (depth + 1)).countP state.catchesAt := by
  have counted := count_take_eq (fun label : Label => label.kind = .catchArm) state.labels
    (depth + 1)
  rw [catchCount]
  cases found : state.label? depth with
  | none =>
      obtain ⟨fault, events, missing⟩ := resolve_bind_of_none found
      rw [missing]
      rfl
  | some label =>
      rw [resolve_bind_of_some found]
      exact congrArg some counted

end Check

/-- In every state and for every depth: a `rethrow` is accepted exactly if the depth names
an open `catch` region. If it names a region of another kind the state is kept, and the
message lists in increasing order all depths for which a `rethrow` is accepted, or says
that there is none. The count of `catch` regions up to the depth is the number of such
depths not beyond it, and fails exactly if the depth names no region. -/
theorem rethrow_agrees_with_catch_queries (env : Environment) (state : State) (depth : Nat) :
    let accepts (target : Nat) : Bool := ((Operation.rethrow target).run env state).result.isOk
    let targets := (List.range state.labels.length).filter accepts
    (accepts depth = true ↔
      ∃ label, state.label? depth = some label ∧ label.kind = .catchArm) ∧
    (targets.Pairwise (· < ·) ∧ ∀ target, target ∈ targets ↔ accepts target = true) ∧
    (∀ label, state.label? depth = some label → label.kind ≠ .catchArm →
      ((Operation.rethrow depth).run env state).state = state ∧
      ((Operation.rethrow depth).run env state).diagnostics.map Diagnostic.text =
        [if targets = [] then "rethrow not in try catch block"
        else "invalid rethrow depth: " ++ toString depth ++ " (catches: " ++
          ", ".intercalate (targets.map toString) ++ ")"]) ∧
    (Check.catchCount depth env state).result.toOption =
      (state.label? depth).map fun _ => (List.range (depth + 1)).countP accepts := by
  intro accepts targets
  have same : accepts = state.catchesAt := funext (Check.rethrow_is_ok env state)
  have listed : targets = state.catchDepths := by
    rw [state.catch_depths_eq, ← same]
  refine ⟨?_, ⟨List.pairwise_lt_range.filter _, ?_⟩, ?_, ?_⟩
  · rw [same]
    exact state.catches_at_iff depth
  · intro target
    rw [List.mem_filter, List.mem_range, same]
    exact and_iff_right_of_imp State.lt_of_catches_at
  · intro label found other
    rw [Operation.run, Check.rethrow_of_other found other, ← listed]
    refine ⟨rfl, ?_⟩
    by_cases nothing : targets = []
    · rw [if_pos nothing, if_pos nothing]
      rfl
    · rw [if_neg nothing, if_neg nothing]
      rfl
  · rw [same]
    exact Check.catch_count_result env state depth

/-- A loop in a handler of a `try`, which stands with a block in a handler of another. -/
theorem loop_between_handlers_offers_both :
    let env : Environment := ⟨.empty, .all⟩
    let state := State.empty.after env
      [.beginFunction [], .enter .tryBlock [] [], .catchArm [], .enter .block [] [],
        .enter .tryBlock [] [], .catchArm [.i32], .enter .loop [] []]
    (state.label? 2).map Label.kind = some .block ∧
      ((Operation.rethrow 2).run env state).state = state ∧
      ((Operation.rethrow 2).run env state).diagnostics.map Diagnostic.text =
        ["invalid rethrow depth: 2 (catches: 1, 3)"] ∧
      (Check.catchCount 2 env state).result.toOption = some 1 := by
  intro env state
  obtain ⟨-, -, refused, counted⟩ := rethrow_agrees_with_catch_queries env state 2
  have found : state.label? 2 = some ⟨.block, [], [], 0, false⟩ := by decide
  obtain ⟨kept, message⟩ := refused _ found (by decide)
  refine ⟨by rw [found]; rfl, kept, message.trans (by decide), counted.trans ?_⟩
  rw [found]
  decide

end WasmTyping
