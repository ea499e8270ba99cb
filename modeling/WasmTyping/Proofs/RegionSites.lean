import WasmTyping.Proofs.Relaxation

/-!
# Regions and their sites

A state can be cut at one of its labels. Above the cut are regions that could stand on
their own, below it the operands and labels of the site where they are opened. All that
is seen of the operands from above the cut belongs to the regions, and all changes made
there are changes of the regions.
-/

set_option autoImplicit false

namespace WasmTyping

/-- Where a region is open: the operands below it and the labels around it. -/
structure Site where
  below : List ValueType
  outer : List Label

/-- From inside, two sites look the same. -/
def Site.Alike (site other : Site) : Prop :=
  other.outer.map Label.shape = site.outer.map Label.shape

/-- A label whose region begins higher by a number of operands. -/
def Label.raise (height : Nat) (label : Label) : Label :=
  { label with limit := height + label.limit }

namespace State

/-- Regions on their own, opened at a site. -/
def within (inside : State) (site : Site) : State :=
  ⟨site.below ++ inside.operands,
    inside.labels.map (Label.raise site.below.length) ++ site.outer, inside.tableTypes⟩

/-! ## What is seen from inside -/

section Views

variable {inside : State} (site : Site)

theorem within_labels {label : Label} {inner : List Label}
    (labels : inside.labels = label :: inner) :
    (inside.within site).labels = label.raise site.below.length ::
      (inner.map (Label.raise site.below.length) ++ site.outer) := by
  rw [within, labels, List.map_cons, List.cons_append]

theorem within_shapes (inside : State) :
    (inside.within site).labels.map Label.shape =
      inside.labels.map Label.shape ++ site.outer.map Label.shape := by
  rw [within, List.map_append, List.map_map]
  rfl

variable (opened : inside.labels ≠ [])

include opened

theorem within_limit : (inside.within site).limit = site.below.length + inside.limit := by
  obtain ⟨label, inner, labels⟩ := List.exists_cons_of_ne_nil opened
  simp only [limit, within_labels site labels, labels]
  rfl

theorem within_region : (inside.within site).region = inside.region := by
  rw [region, within_limit site opened]
  exact List.drop_length_add_append _

theorem within_is_unreachable : (inside.within site).isUnreachable = inside.isUnreachable := by
  obtain ⟨label, inner, labels⟩ := List.exists_cons_of_ne_nil opened
  simp only [isUnreachable, within_labels site labels, labels]
  rfl

theorem within_peek (depth : Nat) : (inside.within site).peek depth = inside.peek depth := by
  have region := within_region site opened
  obtain ⟨label, inner, labels⟩ := List.exists_cons_of_ne_nil opened
  simp only [peek, region, within_labels site labels, labels]
  rfl

theorem within_peek_or_any (depth : Nat) :
    (inside.within site).peekD depth = inside.peekD depth := by
  rw [peekD, peekD, within_peek site opened]

theorem within_check_reference (construct : String) :
    (inside.within site).checkReference construct = inside.checkReference construct := by
  rw [checkReference, checkReference, within_peek site opened]

theorem within_mismatch (place : Place) (construct : String) (expected : List ValueType) :
    (inside.within site).mismatch place construct expected =
      inside.mismatch place construct expected := by
  rw [mismatch, mismatch, within_region site opened]

variable (env : Environment)

theorem within_operand_verdict (depth : Nat) (expected : ValueType) :
    operandVerdict env (inside.within site) depth expected =
      operandVerdict env inside depth expected := by
  rw [operandVerdict, operandVerdict, within_peek site opened]

theorem within_signature_verdict (signature : List ValueType) :
    signatureVerdict env (inside.within site) signature =
      signatureVerdict env inside signature := by
  induction signature with
  | nil => rfl
  | cons expected rest ih =>
      rw [signatureVerdict, signatureVerdict, ih, within_operand_verdict site opened]

theorem within_select_verdict (declared : Option ValueType) :
    selectVerdict env (inside.within site) declared = selectVerdict env inside declared := by
  simp only [selectVerdict, within_operand_verdict site opened, within_peek site opened,
    within_peek_or_any site opened]

omit env

theorem within_discard_verdict (count : Nat) :
    discardVerdict (inside.within site) count = discardVerdict inside count := by
  rw [discardVerdict, discardVerdict, within_region site opened,
    within_is_unreachable site opened]

theorem within_empty_verdict : emptyVerdict (inside.within site) = emptyVerdict inside := by
  have height : (inside.within site).operands.length =
      site.below.length + inside.operands.length := List.length_append
  simp only [emptyVerdict, within_limit site opened, height, Nat.add_left_cancel_iff]

end Views

/-! ## What is changed from inside -/

section Changes

variable (inside : State) (site : Site)

theorem within_push (types : List ValueType) :
    (inside.within site).push types = (inside.push types).within site := by
  simp only [within, push, List.append_assoc]

theorem within_enter (kind : LabelKind) (params results : List ValueType) :
    (inside.within site).enter kind params results =
      (inside.enter kind params results).within site := by
  simp only [within, enter, List.append_assoc, List.length_append, List.map_cons,
    List.cons_append]
  rfl

variable {inside} (opened : inside.labels ≠ [])

include opened

theorem within_remove (count : Nat) :
    (inside.within site).remove count = (inside.remove count).within site := by
  obtain ⟨label, inner, labels⟩ := List.exists_cons_of_ne_nil opened
  have kept : max (site.below.length + label.limit)
      ((site.below ++ inside.operands).length - count) =
      site.below.length + max label.limit (inside.operands.length - count) := by
    rw [List.length_append]
    omega
  rw [remove_of_open (within_labels site labels), remove_of_open labels, discard, discard,
    within_limit site opened]
  simp only [limit, labels, within, kept, List.take_length_add_append]

theorem within_mark_unreachable :
    (inside.within site).markUnreachable = inside.markUnreachable.within site := by
  obtain ⟨label, inner, labels⟩ := List.exists_cons_of_ne_nil opened
  simp only [markUnreachable, within_labels site labels, labels]
  simp only [within, Label.raise, List.take_length_add_append, List.map_cons, List.cons_append]

theorem within_begin_arm (kind : LabelKind) (types : List ValueType) :
    (inside.within site).beginArm kind types = (inside.beginArm kind types).within site := by
  obtain ⟨label, inner, labels⟩ := List.exists_cons_of_ne_nil opened
  simp only [beginArm, within_labels site labels, labels]
  simp only [within, Label.raise, List.take_length_add_append, List.map_cons, List.cons_append,
    List.append_assoc]

theorem within_leave : (inside.within site).leave = inside.leave.within site := by
  obtain ⟨label, inner, labels⟩ := List.exists_cons_of_ne_nil opened
  simp only [leave, within_labels site labels, labels]
  simp only [within, Label.raise, List.take_length_add_append, List.append_assoc]

end Changes

/-! ## What is seen of the labels around -/

/-- The same refusal, or two labels that differ at most in their place in the stack. -/
inductive SameAnswer : Except Complaint Label → Except Complaint Label → Prop where
  | refused (complaint : Complaint) : SameAnswer (.error complaint) (.error complaint)
  | found {label other : Label} (same : other.shape = label.shape) :
      SameAnswer (.ok label) (.ok other)

section Shapes

variable {state other : State}
  (shapes : other.labels.map Label.shape = state.labels.map Label.shape)

include shapes

theorem labels_length_of_shapes : other.labels.length = state.labels.length := by
  simpa using congrArg List.length shapes

theorem resolve_of_shapes (depth : Nat) :
    SameAnswer (state.resolve depth) (other.resolve depth) := by
  have found := congrArg (fun labels => labels[depth]?) shapes
  have empty : other.labels.isEmpty = state.labels.isEmpty := by
    simpa using congrArg List.isEmpty shapes
  simp only [List.getElem?_map] at found
  unfold resolve label?
  rw [empty, labels_length_of_shapes shapes]
  cases here : state.labels[depth]? with
  | none =>
      rw [here, Option.map_none, Option.map_eq_none_iff] at found
      rw [found]
      dsimp only
      split
      · exact .refused _
      · exact .refused _
  | some label =>
      rw [here, Option.map_some, Option.map_eq_some_iff] at found
      obtain ⟨label', there, same⟩ := found
      rw [there]
      exact .found same

theorem outermost_of_shapes : SameAnswer state.outermost other.outermost := by
  have found := congrArg List.getLast? shapes
  simp only [List.getLast?_map] at found
  unfold outermost
  cases here : state.labels.getLast? with
  | none =>
      rw [here, Option.map_none, Option.map_eq_none_iff] at found
      rw [found]
      exact .refused _
  | some label =>
      rw [here, Option.map_some, Option.map_eq_some_iff] at found
      obtain ⟨label', there, same⟩ := found
      rw [there]
      exact .found same

theorem catch_depths_of_shapes : other.catchDepths = state.catchDepths := by
  have through (labels : List Label) :
      (labels.zipIdx.filter fun entry => entry.1.kind = .catchArm).map Prod.snd =
        ((labels.map Label.shape).zipIdx.filter fun entry => entry.1.kind = .catchArm).map
          Prod.snd := by
    rw [List.zipIdx_map, List.filter_map, List.map_map]
    rfl
  rw [catchDepths, catchDepths, through, shapes, ← through]

theorem check_rethrow_of_shapes (depth : Nat) :
    other.checkRethrow depth = state.checkRethrow depth := by
  have answer := resolve_of_shapes shapes depth
  unfold checkRethrow
  rw [catch_depths_of_shapes shapes]
  generalize state.resolve depth = here at answer
  generalize other.resolve depth = there at answer
  cases answer with
  | refused complaint => rfl
  | found same => simp only [(Label.eq_of_shape same).1]

theorem check_catch_values_of_shapes (env : Environment) (values : List ValueType)
    (depth : Nat) :
    checkCatchValues env other values depth = checkCatchValues env state values depth := by
  have answer := resolve_of_shapes shapes depth
  unfold checkCatchValues
  generalize state.resolve depth = here at answer
  generalize other.resolve depth = there at answer
  cases answer with
  | refused complaint => rfl
  | found same => simp only [Label.branch_types_of_shape same]

theorem catch_count_of_shapes (depth : Nat) :
    (other.labels.take (depth + 1)).countP (fun label => label.kind = .catchArm) =
      (state.labels.take (depth + 1)).countP fun label => label.kind = .catchArm := by
  have through (labels : List Label) :
      (labels.take (depth + 1)).countP (fun label => label.kind = .catchArm) =
        ((labels.map Label.shape).take (depth + 1)).countP fun label =>
          label.kind = .catchArm := by
    rw [← List.map_take, List.countP_map]
    rfl
  rw [through, shapes, ← through]

end Shapes

end State

end WasmTyping
