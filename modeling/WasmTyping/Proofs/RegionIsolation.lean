import WasmTyping.Proofs.RegionSites
import WasmTyping.Proofs.StackDiscipline

/-!
# Region isolation

Code inside a region reads its own operands and the labels opened since. Of what is
around the region it sees the number, the kinds and the signatures of the labels, and
nothing of the operands below. So the same steps inside two regions that look alike give
the same verdicts and the same diagnostics, whatever lies below either region, until the
region is closed.
-/

set_option autoImplicit false

namespace WasmTyping

/-- Two outcomes with the same answer and the same diagnostics, which leave the same
regions open at two sites. -/
structure Outcome.Alike {α : Type} (site other : Site) (mayClose : Bool)
    (outcome outcome' : Outcome α) : Prop where
  result : outcome'.result = outcome.result
  diagnostics : outcome'.diagnostics = outcome.diagnostics
  state : ∃ next : State, outcome.state = next.within site ∧ outcome'.state = next.within other ∧
    (mayClose = false → next.labels ≠ [])

/-- A check that does the same at any two sites that look alike. Unless it may close the
region at the site, it leaves that region open. -/
def Check.Local {α : Type} (mayClose : Bool) (check : Check α) : Prop :=
  ∀ (env : Environment) (inside : State) (site other : Site), inside.labels ≠ [] →
    site.Alike other →
      Outcome.Alike site other mayClose (check env (inside.within site))
        (check env (inside.within other))

theorem Outcome.diagnostics_append {α β γ : Type} {first first' : Outcome α}
    {second second' : Outcome β} (left : first'.diagnostics = first.diagnostics)
    (right : second'.diagnostics = second.diagnostics) (result : Except Fault γ)
    (state state' : State) :
    (Outcome.mk result state' (first'.events ++ second'.events)).diagnostics =
      (Outcome.mk result state (first.events ++ second.events)).diagnostics := by
  simp only [diagnostics] at left right ⊢
  rw [List.filterMap_append, List.filterMap_append, left, right]

namespace Check.Local

variable {α β : Type} {mayClose : Bool}

/-! ## Ways of going on -/

theorem pure (value : α) : (Pure.pure value : Check α).Local mayClose := by
  intro env inside site other opened alike
  exact ⟨rfl, rfl, inside, rfl, rfl, fun _ => opened⟩

theorem settle (verdict : Verdict) : (Check.settle verdict).Local mayClose := by
  intro env inside site other opened alike
  exact ⟨rfl, rfl, inside, rfl, rfl, fun _ => opened⟩

theorem observe {view : Environment → State → α}
    (same : ∀ (env : Environment) (inside : State) (site other : Site), inside.labels ≠ [] →
      site.Alike other → view env (inside.within other) = view env (inside.within site)) :
    (Check.observe view).Local mayClose := by
  intro env inside site other opened alike
  refine ⟨?_, rfl, inside, rfl, rfl, fun _ => opened⟩
  exact congrArg Except.ok (same env inside site other opened alike)

theorem ask {question : Environment → State → Except Complaint α}
    (same : ∀ (env : Environment) (inside : State) (site other : Site), inside.labels ≠ [] →
      site.Alike other → question env (inside.within other) = question env (inside.within site)) :
    (Check.ask question).Local mayClose := by
  intro env inside site other opened alike
  have answer := same env inside site other opened alike
  refine ⟨?_, ?_, inside, rfl, rfl, fun _ => opened⟩
  · simp only [Check.ask, answer]
  · simp only [Check.ask, answer, Outcome.diagnostics]

theorem explain (verdict : Verdict) {diagnostic : State → Diagnostic}
    (same : ∀ (inside : State) (site other : Site), inside.labels ≠ [] →
      diagnostic (inside.within other) = diagnostic (inside.within site)) :
    (Check.explain verdict diagnostic).Local mayClose := by
  intro env inside site other opened alike
  refine ⟨rfl, ?_, inside, rfl, rfl, fun _ => opened⟩
  simp only [Check.explain, Outcome.diagnostics, same inside site other opened]

theorem act {change : State → State} {log : State → List Event}
    (silent : ∀ state, (log state).filterMap Event.diagnostic? = [])
    (inward : ∀ (inside : State) (site : Site), inside.labels ≠ [] →
      change (inside.within site) = (change inside).within site)
    (stays : mayClose = false → ∀ inside : State, inside.labels ≠ [] →
      (change inside).labels ≠ []) :
    (Check.act change log).Local mayClose := by
  intro env inside site other opened alike
  refine ⟨rfl, ?_, change inside, inward inside site opened, inward inside other opened,
    fun open' => stays open' inside opened⟩
  simp only [Check.act, Outcome.diagnostics, silent]

theorem bind {check : Check α} {next : α → Check β} (first : check.Local false)
    (rest : ∀ value, (next value).Local mayClose) : (check >>= next).Local mayClose := by
  intro env inside site other opened alike
  obtain ⟨result, diagnostics, middle, reached, reached', stays⟩ :=
    first env inside site other opened alike
  rcases answer : (check env (inside.within site)).result with fault | value
  · rw [bind_apply_error answer, bind_apply_error (result.trans answer)]
    exact ⟨rfl, diagnostics, middle, reached, reached', fun _ => stays rfl⟩
  · obtain ⟨result', diagnostics', last⟩ := rest value env middle site other (stays rfl) alike
    rw [bind_apply_ok answer, bind_apply_ok (result.trans answer), reached, reached', result']
    exact ⟨rfl, Outcome.diagnostics_append diagnostics diagnostics' _ _ _, last⟩

theorem also {first second : Check Unit} (left : first.Local false)
    (right : second.Local mayClose) : (first.also second).Local mayClose := by
  intro env inside site other opened alike
  obtain ⟨result, diagnostics, middle, reached, reached', stays⟩ :=
    left env inside site other opened alike
  obtain ⟨result', diagnostics', last⟩ := right env middle site other (stays rfl) alike
  rw [also_apply, also_apply, reached, reached', result, result']
  exact ⟨rfl, Outcome.diagnostics_append diagnostics diagnostics' _ _ _, last⟩

theorem all {checks : List (Check Unit)} (each : ∀ check ∈ checks, check.Local false) :
    (Check.all checks).Local mayClose := by
  induction checks with
  | nil => exact pure ()
  | cons check rest ih =>
      apply also
      · exact each check List.mem_cons_self
      · exact ih fun other member => each other (List.mem_cons_of_mem _ member)

theorem three {first second third : Check Unit} (left : first.Local false)
    (middle : second.Local false) (right : third.Local false) :
    (Check.all [first, second, third]).Local mayClose := by
  apply all
  simp only [List.forall_mem_cons]
  exact ⟨left, middle, right, nofun⟩

theorem attempt {check : Check Unit} (first : check.Local mayClose) :
    (Check.attempt check).Local mayClose := by
  intro env inside site other opened alike
  obtain ⟨result, diagnostics, last⟩ := first env inside site other opened alike
  exact ⟨congrArg Except.ok result, diagnostics, last⟩

/-- To go on with a label, if only its shape matters. -/
theorem label_bind {question : Environment → State → Except Complaint Label}
    {next : Label → Check β}
    (same : ∀ (env : Environment) (inside : State) (site other : Site), site.Alike other →
      State.SameAnswer (question env (inside.within site)) (question env (inside.within other)))
    (blind : ∀ label, next label = next label.shape)
    (rest : ∀ label, (next label).Local mayClose) :
    (Check.ask question >>= next).Local mayClose := by
  intro env inside site other opened alike
  have answer := same env inside site other alike
  generalize here : question env (inside.within site) = found at answer
  generalize there : question env (inside.within other) = found' at answer
  cases answer with
  | refused complaint =>
      rw [ask_bind_of_error here, ask_bind_of_error there]
      exact ⟨rfl, rfl, inside, rfl, rfl, fun _ => opened⟩
  | @found label label' shape =>
      rw [ask_bind_of_ok here, ask_bind_of_ok there, blind label', shape, ← blind label]
      exact rest label env inside site other opened alike

theorem shapes_alike {site other : Site} (alike : site.Alike other) (inside : State) :
    (inside.within other).labels.map Label.shape =
      (inside.within site).labels.map Label.shape := by
  rw [State.within_shapes, State.within_shapes, alike]

theorem resolve_bind {depth : Nat} {next : Label → Check β}
    (blind : ∀ label, next label = next label.shape)
    (rest : ∀ label, (next label).Local mayClose) :
    (Check.resolve depth >>= next).Local mayClose :=
  label_bind (fun _ inside _ _ alike => State.resolve_of_shapes (shapes_alike alike inside) depth)
    blind rest

theorem outermost_bind {next : Label → Check β} (blind : ∀ label, next label = next label.shape)
    (rest : ∀ label, (next label).Local mayClose) :
    (Check.outermost >>= next).Local mayClose :=
  label_bind (fun _ inside _ _ alike => State.outermost_of_shapes (shapes_alike alike inside))
    blind rest

/-! ## Operands -/

theorem resolve_type (index : Nat) : (Check.resolveType index).Local mayClose :=
  ask fun _ _ _ _ _ _ => rfl

theorem mismatch (verdict : Verdict) (place : Place) (construct : String)
    (expected : List ValueType) :
    (Check.explain verdict fun state => state.mismatch place construct expected).Local
      mayClose := by
  apply explain
  intro inside site other opened
  rw [State.within_mismatch site opened, State.within_mismatch other opened]

theorem check_signature (signature : List ValueType) (construct : String) :
    (Check.checkSignature signature construct).Local mayClose := by
  refine bind (observe ?_) fun verdict => mismatch _ _ _ _
  intro env inside site other opened alike
  rw [State.within_signature_verdict site opened, State.within_signature_verdict other opened]

theorem drop_types (count : Nat) : (Check.dropTypes count).Local mayClose := by
  intro env inside site other opened alike
  obtain ⟨label, inner, labels⟩ := List.exists_cons_of_ne_nil opened
  have removed (site : Site) : (inside.within site).discard count =
      (inside.remove count).within site := by
    rw [← State.remove_of_open (State.within_labels site labels), State.within_remove site opened]
  rw [drop_types_of_open (State.within_labels site labels),
    drop_types_of_open (State.within_labels other labels),
    State.within_discard_verdict site opened, State.within_discard_verdict other opened,
    removed, removed]
  refine ⟨rfl, rfl, inside.remove count, rfl, rfl, fun _ => ?_⟩
  rw [State.remove_labels]
  exact opened

theorem pop_signature (signature : List ValueType) (construct : String) :
    (Check.popSignature signature construct).Local mayClose :=
  also (check_signature signature construct) (drop_types signature.length)

theorem pop_signatures (signatures : List (List ValueType)) (construct : String) :
    (Check.popSignatures signatures construct).Local mayClose := by
  apply all
  intro check member
  obtain ⟨signature, _, rfl⟩ := List.mem_map.mp member
  exact pop_signature signature construct

theorem push_types (types : List ValueType) : (Check.pushTypes types).Local mayClose :=
  act (fun _ => rfl) (fun inside site _ => inside.within_push site types) fun _ _ opened => opened

theorem keep_table (keep : Option (List ValueType) → Option (List ValueType)) :
    (Check.modify fun state => { state with tableTypes := keep state.tableTypes }).Local mayClose :=
  act (fun _ => rfl) (fun _ _ _ => rfl) fun _ _ opened => opened

theorem effect (effect : Effect) : effect.check.Local mayClose :=
  also (pop_signatures effect.pops effect.construct) (push_types effect.pushes)

theorem check_region_empty (construct : String) :
    (Check.checkRegionEmpty construct).Local mayClose := by
  refine resolve_bind (fun _ => rfl) fun label => bind (observe ?_) fun verdict => mismatch _ _ _ _
  intro env inside site other opened alike
  rw [State.within_empty_verdict site opened, State.within_empty_verdict other opened]

theorem pop_reference (construct : String) : (Check.popReference construct).Local mayClose := by
  refine bind (observe ?_) fun type =>
    bind (attempt (also (ask ?_) (drop_types 1))) fun verdict => pure _
  · intro env inside site other opened alike
    rw [State.within_peek_or_any site opened, State.within_peek_or_any other opened]
  · intro env inside site other opened alike
    rw [State.within_check_reference site opened, State.within_check_reference other opened]

theorem select (declared : Option ValueType) : (Check.select declared).Local mayClose := by
  refine bind (observe ?_) fun selected => three (mismatch _ _ _ _) (drop_types 3) (push_types _)
  intro env inside site other opened alike
  rw [State.within_select_verdict site opened, State.within_select_verdict other opened]

theorem check_lane (count lane : Nat) (fault : Fault) :
    (Check.checkLane count lane fault).Local mayClose :=
  ask fun _ _ _ _ _ _ => rfl

/-! ## Regions -/

theorem set_unreachable : Check.setUnreachable.Local mayClose := by
  refine resolve_bind (fun _ => rfl) fun label => act (fun _ => rfl) ?_ ?_
  · intro inside site opened
    exact State.within_mark_unreachable site opened
  · intro _ inside opened
    obtain ⟨label, inner, labels⟩ := List.exists_cons_of_ne_nil opened
    simp only [State.markUnreachable, labels]
    exact List.cons_ne_nil _ _

theorem enter_region (kind : LabelKind) (params results : List ValueType) :
    (Check.enterRegion kind params results).Local mayClose := by
  apply act
  · exact fun _ => rfl
  · exact fun inside site _ => inside.within_enter site kind params results
  · exact fun _ _ _ => List.cons_ne_nil _ _

theorem require_kind (rule : LabelRule) (label : Label) :
    (Check.requireKind rule label).Local mayClose :=
  ask fun _ _ _ _ _ _ => rfl

theorem check_results (label : Label) (construct last : String) :
    (Check.checkResults label construct last).Local mayClose :=
  also (pop_signature _ _) (check_region_empty _)

/-- Only this step takes a label away. -/
theorem leave_region (label : Label) (construct last : String) :
    (Check.leaveRegion label construct last).Local true := by
  refine also (check_results label construct last) (act ?_ ?_ nofun)
  · intro state
    cases state.labels <;> rfl
  · intro inside site opened
    exact State.within_leave site opened

theorem close_under (rule : LabelRule) (construct last : String) :
    (Check.closeUnder rule construct last).Local true :=
  resolve_bind (fun _ => rfl) fun label => also (require_kind rule label) (leave_region label _ _)

theorem next_arm (rule : LabelRule) (label : Label) (construct : String) (kind : LabelKind)
    (types : List ValueType) :
    (Check.nextArm rule label construct kind types).Local mayClose := by
  refine three (require_kind _ _) (check_results _ _ _) (act (fun _ => rfl) ?_ ?_)
  · intro inside site opened
    exact State.within_begin_arm site opened kind types
  · intro _ inside opened
    obtain ⟨label, inner, labels⟩ := List.exists_cons_of_ne_nil opened
    simp only [State.beginArm, labels]
    exact List.cons_ne_nil _ _

theorem else_arm : Check.elseArm.Local mayClose :=
  resolve_bind (fun _ => rfl) fun label => next_arm _ label _ _ _

theorem end_region : Check.endRegion.Local true := by
  refine resolve_bind (fun _ => rfl) fun label => ?_
  split
  · exact also else_arm (leave_region _ _ _)
  · exact leave_region _ _ _

theorem tail_call (construct : String) (pops : List (List ValueType)) (results : List ValueType) :
    (Check.tailCall construct pops results).Local mayClose :=
  also (pop_signatures _ _) <| outermost_bind (fun _ => rfl) fun _ =>
    also (ask fun _ _ _ _ _ _ => rfl) set_unreachable

theorem catch_count (depth : Nat) : (Check.catchCount depth).Local mayClose := by
  refine resolve_bind (fun _ => rfl) fun label => observe ?_
  intro env inside site other opened alike
  exact State.catch_count_of_shapes (shapes_alike alike inside) depth

end Check.Local

/-- A step that does not begin a new body does the same at sites that look alike. -/
theorem Operation.run_local {operation : Operation}
    (continues : ∀ kind types, operation.role ≠ .begins kind types) :
    operation.run.Local true := by
  cases operation with
  | beginFunction results => exact absurd rfl (continues _ _)
  | beginInitExpr type => exact absurd rfl (continues _ _)
  | endFunction => exact .close_under _ _ _
  | endInitExpr => exact .close_under _ _ _
  | enter opening params results => exact .also (.pop_signatures _ _) (.enter_region _ _ _)
  | elseArm => exact .else_arm
  | endBlock => exact .end_region
  | catchArm values => exact .resolve_bind (fun _ => rfl) fun label => .next_arm _ label _ _ _
  | delegate depth => exact .resolve_bind (fun _ => rfl) fun _ => .close_under _ _ _
  | rethrow depth =>
      refine .bind (.ask ?_) fun _ => .set_unreachable
      intro env inside site other opened alike
      exact State.check_rethrow_of_shapes (Check.Local.shapes_alike alike inside) depth
  | throwTag values => exact .also (.pop_signature _ _) .set_unreachable
  | throwRef => exact .also (.pop_signature _ _) .set_unreachable
  | beginTryTable params => exact .pop_signature _ _
  | tryTableCatch values depth =>
      apply Check.Local.ask
      intro env inside site other opened alike
      exact State.check_catch_values_of_shapes (Check.Local.shapes_alike alike inside) env values
        depth
  | finishTryTable params results => exact .enter_region _ _ _
  | br depth =>
      exact .resolve_bind (fun _ => rfl) fun label => .also (.check_signature _ _) .set_unreachable
  | brIf depth =>
      exact .bind (.attempt (.pop_signature _ _)) fun condition =>
        .resolve_bind (fun _ => rfl) fun label =>
          .three (.settle _) (.pop_signature _ _) (.push_types _)
  | beginBrTable => exact .also (.keep_table fun _ => none) (.pop_signature _ _)
  | brTableTarget depth =>
      exact .resolve_bind (fun _ => rfl) fun label =>
        .three (.check_signature _ _) (.ask fun _ _ _ _ _ _ => rfl)
          (.keep_table fun kept => some (kept.getD label.branchTypes))
  | endBrTable => exact .also (.keep_table fun _ => none) .set_unreachable
  | brOnNull depth =>
      exact .bind (.pop_reference _) fun popped => .resolve_bind (fun _ => rfl) fun label =>
        .three (.settle _) (.check_signature _ _) (.push_types _)
  | brOnNonNull depth =>
      refine .bind (.pop_reference _) fun popped => .resolve_bind (fun _ => rfl) fun label => ?_
      split
      · exact .also (.settle _) (.ask fun _ _ _ _ _ _ => rfl)
      · refine .three (.settle _) (.bind (.observe fun _ _ _ _ _ _ => rfl) fun _ => ?_)
          (.check_signature _ _)
        exact .explain _ fun _ _ _ _ => rfl
  | callRef index => exact .bind (.resolve_type _) fun type => .effect _
  | returnValues =>
      exact .outermost_bind (fun _ => rfl) fun label => .also (.pop_signature _ _) .set_unreachable
  | returnCall params results => exact .tail_call _ _ _
  | returnCallIndirect params results table => exact .tail_call _ _ _
  | returnCallRef index => exact .bind (.resolve_type _) fun type => .tail_call _ _ _
  | plain instruction => exact .effect _
  | lane op index => exact .also (.check_lane _ _ _) (.effect _)
  | shuffle op lanes =>
      refine .also (.all ?_) (.effect _)
      intro check member
      obtain ⟨lane, _, rfl⟩ := List.mem_map.mp member
      exact .check_lane _ _ _
  | laneAccess op memory index => exact .also (.check_lane _ _ _) (.effect _)
  | drop => exact .bind (.attempt (.drop_types _)) fun _ => .mismatch _ _ _ _
  | select declared => exact .select declared
  | unreachable => exact .set_unreachable
  | refIsNull => exact .bind (.pop_reference _) fun _ => .also (.settle _) (.push_types _)
  | refAsNonNull => exact .bind (.pop_reference _) fun _ => .also (.settle _) (.push_types _)
  | checkType actual expected => exact .bind (.observe fun _ _ _ _ _ _ => rfl) fun _ => .settle _
  | checkTypes actual expected => exact .bind (.observe fun _ _ _ _ _ _ => rfl) fun _ => .settle _
  | dropTypes count => exact .drop_types count

/-! ## Runs inside a region -/

namespace State

/-- Two states with the same open regions, each at a site of its own. -/
def AgreeInside (site other : Site) (state state' : State) : Prop :=
  ∃ inside : State, inside.labels ≠ [] ∧ state = inside.within site ∧
    state' = inside.within other

/-- A state is cut at its innermost label. -/
theorem eq_within_innermost {state : State} {label : Label} {outer : List Label}
    (opened : state.labels = label :: outer) (grounded : label.limit ≤ state.operands.length) :
    state = within ⟨state.region, [{ label with limit := 0 }], state.tableTypes⟩
      ⟨state.operands.take label.limit, outer⟩ := by
  have height : (state.operands.take label.limit).length = label.limit := by
    rw [List.length_take]
    omega
  have region : state.region = state.operands.drop label.limit := by
    simp only [region, limit, opened]
  rw [within, region, List.take_append_drop, height, List.map_singleton, List.singleton_append,
    Label.raise, Nat.add_zero, ← opened]

namespace AgreeInside

variable {site other : Site} {state state' : State} (agree : AgreeInside site other state state')

include agree

theorem peek (depth : Nat) : state'.peek depth = state.peek depth := by
  obtain ⟨inside, opened, rfl, rfl⟩ := agree
  rw [within_peek site opened, within_peek other opened]

variable (alike : site.Alike other)

include alike

theorem check {α : Type} {mayClose : Bool} {check : Check α} (isLocal : check.Local mayClose)
    (env : Environment) :
    Outcome.Alike site other mayClose (check env state) (check env state') := by
  obtain ⟨inside, opened, rfl, rfl⟩ := agree
  exact isLocal env inside site other opened alike

/-- The same step in both states, as long as it does not close the region at the site. -/
theorem run (env : Environment) {operation : Operation}
    (continues : ∀ kind types, operation.role ≠ .begins kind types)
    (stays : site.outer.length < (operation.run env state).state.labels.length) :
    (operation.run env state').result = (operation.run env state).result ∧
      (operation.run env state').diagnostics = (operation.run env state).diagnostics ∧
      AgreeInside site other (operation.run env state).state
        (operation.run env state').state := by
  obtain ⟨result, diagnostics, next, reached, reached', -⟩ :=
    agree.check alike (Operation.run_local continues) env
  refine ⟨result, diagnostics, next, ?_, reached, reached'⟩
  -- the labels outnumber those of the site, so some belong to the regions
  intro closed
  rw [reached, within, closed] at stays
  exact Nat.lt_irrefl _ stays

theorem after (env : Environment) {operations : List Operation}
    (continues : ∀ operation ∈ operations, ∀ kind types, operation.role ≠ .begins kind types)
    (stays : ∀ count, count ≤ operations.length →
      site.outer.length < (state.after env (operations.take count)).labels.length) :
    state'.replies env operations = state.replies env operations ∧
      AgreeInside site other (state.after env operations) (state'.after env operations) := by
  induction operations generalizing state state' with
  | nil => exact ⟨rfl, agree⟩
  | cons operation rest ih =>
      obtain ⟨result, diagnostics, stillAgree⟩ :=
        agree.run alike env (continues operation List.mem_cons_self)
          (stays 1 (Nat.succ_le_succ (Nat.zero_le _)))
      have continuesRest : ∀ other ∈ rest, ∀ kind types, other.role ≠ .begins kind types := by
        intro other member
        exact continues other (List.mem_cons_of_mem _ member)
      have staysRest : ∀ count, count ≤ rest.length → site.outer.length <
          ((operation.run env state).state.after env (rest.take count)).labels.length := by
        intro count bound
        exact stays (count + 1) (Nat.succ_le_succ bound)
      obtain ⟨replies, reached⟩ := ih stillAgree continuesRest staysRest
      rw [State.replies, State.replies, result, diagnostics, replies]
      exact ⟨rfl, reached⟩

end AgreeInside

end State

/-- Take two states, each with its innermost limit within its stack as in every reachable
state, that agree in the innermost label but for its limit, in the operands above it, in
the kinds and signatures of the labels around it and in the table in progress. Steps that
keep this label open and do not begin a new body have the same verdicts and diagnostics in
both states, and lead to states that agree in the regions opened since, in all but their
heights. Queries cannot tell these states apart either. -/
theorem regions_are_isolated (env : Environment) {state other : State} {label label' : Label}
    {outer outer' : List Label} (opened : state.labels = label :: outer)
    (opened' : other.labels = label' :: outer') (grounded : label.limit ≤ state.operands.length)
    (grounded' : label'.limit ≤ other.operands.length)
    (innermost : label' = { label with limit := label'.limit })
    (around : outer'.map Label.shape = outer.map Label.shape)
    (region : other.region = state.region) (table : other.tableTypes = state.tableTypes)
    (operations : List Operation)
    (continues : ∀ operation ∈ operations, ∀ kind types, operation.role ≠ .begins kind types)
    (stays : ∀ count, count ≤ operations.length →
      outer.length < (state.after env (operations.take count)).labels.length) :
    let last := state.after env operations
    let last' := other.after env operations
    other.replies env operations = state.replies env operations ∧
      State.AgreeInside ⟨state.operands.take label.limit, outer⟩
        ⟨other.operands.take label'.limit, outer'⟩ last last' ∧
      (∀ depth, (Check.catchCount depth env last').result =
          (Check.catchCount depth env last).result ∧
        (Check.catchCount depth env last').diagnostics =
          (Check.catchCount depth env last).diagnostics) ∧
      ∀ depth, last'.peek depth = last.peek depth := by
  intro last last'
  let site : Site := ⟨state.operands.take label.limit, outer⟩
  let site' : Site := ⟨other.operands.take label'.limit, outer'⟩
  have alike : site.Alike site' := around
  have agree : State.AgreeInside site site' state other := by
    refine ⟨_, List.cons_ne_nil _ _, State.eq_within_innermost opened grounded, ?_⟩
    have cut := State.eq_within_innermost opened' grounded'
    rw [region, table, innermost] at cut
    exact cut
  obtain ⟨replies, reached⟩ := agree.after alike env continues stays
  refine ⟨replies, reached, ?_, reached.peek⟩
  intro depth
  have counted := reached.check alike (@Check.Local.catch_count true depth) env
  exact ⟨counted.result, counted.diagnostics⟩

/-- A block that drops one operand too many and branches out of a loop, once above a
number, once above a vector that the enclosing body has already made unreachable. -/
theorem failing_loop_is_isolated :
    let env : Environment := ⟨.empty, .standard⟩
    let outer : List Label := [⟨.function, [], [.i32], 0, false⟩]
    let outer' : List Label := [⟨.function, [], [.i32], 1, true⟩]
    let state : State := ⟨[.f32, .i64], ⟨.block, [], [.i64], 1, false⟩ :: outer, none⟩
    let other : State :=
      ⟨[.i64, .v128, .i64], ⟨.block, [], [.i64], 2, false⟩ :: outer', none⟩
    let operations : List Operation :=
      [.drop, .drop, .enter .loop [] [.f32], .brIf 2, .br 1, .endBlock, .refIsNull]
    other.replies env operations = state.replies env operations ∧
      State.AgreeInside ⟨[.f32], outer⟩ ⟨[.i64, .v128], outer'⟩ (state.after env operations)
        (other.after env operations) := by
  intro env outer outer' state other operations
  have continues : ∀ operation ∈ operations, ∀ kind types,
      operation.role ≠ .begins kind types := by
    simp [operations, Operation.role]
  have stays : ∀ count, count ≤ operations.length →
      outer.length < (state.after env (operations.take count)).labels.length := by
    decide
  obtain ⟨replies, agree, -⟩ := @regions_are_isolated env state other _ _ outer outer' rfl rfl
    (by decide) (by decide) rfl rfl rfl rfl operations continues stays
  exact ⟨replies, agree⟩

end WasmTyping
