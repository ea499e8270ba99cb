import Mathlib.Data.Finset.Prod
import Mathlib.Logic.Relation
import WasmTyping.Proofs.AssumptionStack

/-!
# Comparisons end

A comparison is run here one call at a time. What waits for the answer to a nested
call is kept in frames, and all calls share one stack of assumed pairs. A comparison
of indices puts its pair on that stack before it looks at the signatures and takes the
topmost pair off when it is left, whichever pair that is.

Only distinct registered indices that are not assumed yet are put on the stack. So the
stack stays bounded, every call comes back with the stack it found, and no run goes on
for ever.
-/

set_option autoImplicit false

namespace WasmTyping

/-- A comparison to be made. -/
inductive Comparison where
  | types (actual expected : ValueType)
  | indices (source target : Nat)
  | sequences (actuals expecteds : List ValueType)
  deriving DecidableEq

/-- The answer to a comparison under assumed pairs. -/
def Comparison.value (registry : Registry) (assumed : List (Nat × Nat)) : Comparison → Bool
  | types actual expected => actual.fits (registry.indexFits assumed) expected
  | indices source target => registry.indexFits assumed source target
  | sequences actuals expecteds =>
    ValueType.allFit (registry.indexFits assumed) actuals expecteds

/-- A comparison that waits for the answer to one of its parts. -/
structure Frame where
  /-- The parts to come, which are compared only while all answers are yes. -/
  pending : List Comparison
  /-- The indices whose signatures are compared. -/
  pair? : Option (Nat × Nat)
  deriving DecidableEq

namespace Frame

def sequences (actuals expecteds : List ValueType) : Frame :=
  ⟨(actuals.zip expecteds).map fun pair => .types pair.1 pair.2, none⟩

def signatures (source target : Nat) (actual expected : FuncType) : Frame :=
  ⟨[.sequences actual.params expected.params, .sequences actual.results expected.results],
    some (source, target)⟩

/-- What the frame leaves of the stack: the topmost pair is taken off after a
comparison of signatures. -/
def release (frame : Frame) (assumed : List (Nat × Nat)) : List (Nat × Nat) :=
  match frame.pair? with
  | some _ => assumed.tail
  | none => assumed

end Frame

/-- What a run does next: make a comparison, or hand an answer to the newest frame. -/
inductive Focus where
  | compare (comparison : Comparison)
  | answer (value : Bool)
  deriving DecidableEq

/-- A comparison in progress. Frames and assumed pairs are listed from the newest. -/
structure Comparer where
  focus : Focus
  frames : List Frame
  assumed : List (Nat × Nat)
  deriving DecidableEq

namespace Comparer

def start (comparison : Comparison) : Comparer :=
  ⟨.compare comparison, [], []⟩

/-- The number of calls that have not come back. -/
def depth : Comparer → Nat
  | ⟨.compare _, frames, _⟩ => frames.length + 1
  | ⟨.answer _, frames, _⟩ => frames.length

/-- The number of comparisons of indices that wait for their signatures. -/
def indexFrames (comparer : Comparer) : Nat :=
  comparer.frames.countP fun frame => frame.pair?.isSome

/-- The number of comparisons of indices that have not come back, the running one included. -/
def indexCalls (comparer : Comparer) : Nat :=
  match comparer.focus with
  | .compare (.indices _ _) => comparer.indexFrames + 1
  | _ => comparer.indexFrames

theorem index_calls_le (comparer : Comparer) : comparer.indexCalls ≤ comparer.indexFrames + 1 := by
  unfold indexCalls
  split
  · exact Nat.le_refl _
  · exact Nat.le_succ _

end Comparer

namespace Registry

/-- Make a comparison: answer it, pass it on or split it into parts. -/
def enter (registry : Registry) (frames : List Frame) (assumed : List (Nat × Nat)) :
    Comparison → Comparer
  | .types (.ref source actual) (.ref target expected) =>
    if nullFits actual expected then ⟨.compare (.indices source target), frames, assumed⟩
    else ⟨.answer false, frames, assumed⟩
  | .types actual expected =>
    ⟨.answer (actual.fits (fun _ _ => false) expected), frames, assumed⟩
  | .indices source target =>
    if source = target then ⟨.answer true, frames, assumed⟩
    else if assumed.contains (source, target) then ⟨.answer true, frames, assumed⟩
    else
      match registry.get? source, registry.get? target with
      | some actual, some expected =>
        ⟨.answer true, .signatures source target actual expected :: frames,
          (source, target) :: assumed⟩
      | _, _ => ⟨.answer false, frames, assumed⟩
  | .sequences actuals expecteds =>
    if actuals.length = expecteds.length then
      ⟨.answer true, .sequences actuals expecteds :: frames, assumed⟩
    else ⟨.answer false, frames, assumed⟩

/-- One step of a comparison; none is left once the first call is answered. -/
def advance (registry : Registry) : Comparer → Option Comparer
  | ⟨.compare comparison, frames, assumed⟩ => some (registry.enter frames assumed comparison)
  | ⟨.answer _, [], _⟩ => none
  | ⟨.answer true, ⟨next :: pending, pair?⟩ :: frames, assumed⟩ =>
    some ⟨.compare next, ⟨pending, pair?⟩ :: frames, assumed⟩
  | ⟨.answer value, frame :: frames, assumed⟩ =>
    some ⟨.answer value, frames, frame.release assumed⟩

/-- Any number of steps during which more calls than the given number are open. -/
def RunsAbove (registry : Registry) (depth : Nat) : Comparer → Comparer → Prop :=
  Relation.ReflTransGen fun before after =>
    depth < before.depth ∧ registry.advance before = some after

/-- Any number of steps. -/
def Runs (registry : Registry) : Comparer → Comparer → Prop :=
  Relation.ReflTransGen fun before after => registry.advance before = some after

/-- A call comes back with its answer, and with the frames and the assumptions it
found. Until then it stays open. -/
def Returns (registry : Registry) (assumed : List (Nat × Nat)) (comparison : Comparison) : Prop :=
  ∀ frames, registry.RunsAbove frames.length ⟨.compare comparison, frames, assumed⟩
    ⟨.answer (comparison.value registry assumed), frames, assumed⟩

end Registry

/-! ## Every call comes back -/

namespace Registry

variable {registry : Registry} {assumed : List (Nat × Nat)}

theorem RunsAbove.runs {depth : Nat} {before after : Comparer}
    (run : registry.RunsAbove depth before after) : registry.Runs before after :=
  Relation.ReflTransGen.mono (fun _ _ step => step.2) _ _ run

theorem RunsAbove.of_deeper {depth deeper : Nat} (below : depth ≤ deeper) {before after : Comparer}
    (run : registry.RunsAbove deeper before after) : registry.RunsAbove depth before after :=
  Relation.ReflTransGen.mono (fun _ _ step => ⟨Nat.lt_of_le_of_lt below step.1, step.2⟩) _ _ run

/-- A call first makes its comparison. -/
theorem runs_of_enter {frames : List Frame} {comparison : Comparison} {after : Comparer}
    (run : registry.RunsAbove frames.length (registry.enter frames assumed comparison) after) :
    registry.RunsAbove frames.length ⟨.compare comparison, frames, assumed⟩ after :=
  .head ⟨Nat.lt_succ_self _, rfl⟩ run

theorem advance_refused (registry : Registry) (frame : Frame) (frames : List Frame)
    (assumed : List (Nat × Nat)) :
    registry.advance ⟨.answer false, frame :: frames, assumed⟩ =
      some ⟨.answer false, frames, frame.release assumed⟩ := by
  obtain ⟨_ | _, pair?⟩ := frame <;> rfl

/-- The parts of a frame are compared one after the other, until one does not hold. -/
theorem frame_runs (frame : Frame)
    (parts : ∀ part ∈ frame.pending, registry.Returns assumed part) (frames : List Frame) :
    registry.RunsAbove frames.length ⟨.answer true, frame :: frames, assumed⟩
      ⟨.answer (frame.pending.all fun part => part.value registry assumed), frames,
        frame.release assumed⟩ := by
  obtain ⟨pending, pair?⟩ := frame
  induction pending with
  | nil => exact .single ⟨Nat.lt_succ_self _, rfl⟩
  | cons part rest ih =>
      obtain ⟨here, later⟩ := List.forall_mem_cons.mp parts
      have called : registry.RunsAbove frames.length
          ⟨.answer true, ⟨part :: rest, pair?⟩ :: frames, assumed⟩
          ⟨.answer (part.value registry assumed), ⟨rest, pair?⟩ :: frames, assumed⟩ :=
        .head ⟨Nat.lt_succ_self _, rfl⟩
          ((here (⟨rest, pair?⟩ :: frames)).of_deeper (Nat.le_succ _))
      refine called.trans ?_
      rw [List.all_cons]
      cases part.value registry assumed with
      | true => exact ih later
      | false => exact .single ⟨Nat.lt_succ_self _, registry.advance_refused _ frames assumed⟩

/-- Only two indexed references need a nested call. -/
theorem types_return (indices : ∀ source target, registry.Returns assumed (.indices source target))
    (actual expected : ValueType) : registry.Returns assumed (.types actual expected) := by
  intro frames
  apply runs_of_enter
  cases actual with
  | ref source nullable =>
      cases expected with
      | ref target admitted =>
          show registry.RunsAbove frames.length
            (if nullFits nullable admitted then ⟨.compare (.indices source target), frames, assumed⟩
              else ⟨.answer false, frames, assumed⟩)
            ⟨.answer (nullFits nullable admitted && registry.indexFits assumed source target),
              frames, assumed⟩
          cases nullFits nullable admitted with
          | true => exact indices source target frames
          | false => exact .refl
      | _ => exact .refl
  | _ => cases expected <;> exact .refl

theorem sequences_return
    (types : ∀ actual expected, registry.Returns assumed (.types actual expected))
    (actuals expecteds : List ValueType) :
    registry.Returns assumed (.sequences actuals expecteds) := by
  intro frames
  apply runs_of_enter
  have parts : ∀ part ∈ (Frame.sequences actuals expecteds).pending,
      registry.Returns assumed part := by
    intro part member
    obtain ⟨pair, -, rfl⟩ := List.mem_map.mp member
    exact types pair.1 pair.2
  have run := frame_runs _ parts frames
  by_cases same : actuals.length = expecteds.length
  · have value : (Comparison.sequences actuals expecteds).value registry assumed =
        (Frame.sequences actuals expecteds).pending.all
          fun part => part.value registry assumed := by
      simp [Comparison.value, ValueType.allFit, same, Frame.sequences, List.all_map,
        Function.comp_def]
    rw [value, enter, if_pos same]
    exact run
  · have value : (Comparison.sequences actuals expecteds).value registry assumed = false := by
      simp [Comparison.value, ValueType.allFit, same]
    rw [value, enter, if_neg same]
    exact .refl

/-- A comparison of indices comes back. The induction is on the pairs that are not
assumed yet. -/
theorem indices_return (registry : Registry) (assumed : List (Nat × Nat)) (source target : Nat) :
    registry.Returns assumed (.indices source target) := by
  intro frames
  apply runs_of_enter
  rw [Comparison.value, enter]
  by_cases same : source = target
  · rw [indexFits, if_pos same, if_pos same]
    exact .refl
  rw [if_neg same]
  by_cases member : (source, target) ∈ assumed
  · rw [indexFits, if_neg same, dif_pos member, if_pos (List.contains_iff_mem.mpr member)]
    exact .refl
  rw [index_fits_of_fresh same member, if_neg (mt List.contains_iff_mem.mp member)]
  cases sourceFound : registry.get? source with
  | none => exact .refl
  | some actual =>
      cases targetFound : registry.get? target with
      | none => exact .refl
      | some expected =>
          have smaller := length_unassumed_cons_lt member sourceFound targetFound
          have nested := sequences_return
            (types_return (indices_return registry ((source, target) :: assumed)))
          have run := frame_runs (.signatures source target actual expected)
            (List.forall_mem_cons.mpr ⟨nested actual.params expected.params,
              List.forall_mem_singleton.mpr (nested actual.results expected.results)⟩) frames
          simp only [Frame.signatures, List.all_cons, List.all_nil, Bool.and_true] at run
          exact run
termination_by (registry.unassumed assumed).length

theorem comparison_returns (registry : Registry) (assumed : List (Nat × Nat))
    (comparison : Comparison) : registry.Returns assumed comparison := by
  have indices := registry.indices_return assumed
  cases comparison with
  | types actual expected => exact types_return indices actual expected
  | indices source target => exact indices source target
  | sequences actuals expecteds => exact sequences_return (types_return indices) actuals expecteds

/-! ## No run goes on for ever -/

theorem runs_to_answer (registry : Registry) (comparer : Comparer) :
    ∃ value assumed, registry.Runs comparer ⟨.answer value, [], assumed⟩ := by
  obtain ⟨focus, frames, assumed⟩ := comparer
  have answered : ∀ (value : Bool) (assumed : List (Nat × Nat)),
      ∃ last left, registry.Runs ⟨.answer value, frames, assumed⟩ ⟨.answer last, [], left⟩ := by
    induction frames with
    | nil => exact fun value assumed => ⟨value, assumed, .refl⟩
    | cons frame frames ih =>
        intro value assumed
        cases value with
        | true =>
            have parts := frame_runs frame
              (fun part _ => registry.comparison_returns assumed part) frames
            obtain ⟨last, left, run⟩ := ih _ _
            exact ⟨last, left, parts.runs.trans run⟩
        | false =>
            obtain ⟨last, left, run⟩ := ih false (frame.release assumed)
            exact ⟨last, left, .head (registry.advance_refused frame frames assumed) run⟩
  cases focus with
  | answer value => exact answered value assumed
  | compare comparison =>
      obtain ⟨last, left, run⟩ := answered (comparison.value registry assumed) assumed
      exact ⟨last, left, (registry.comparison_returns assumed comparison frames).runs.trans run⟩

theorem advance_well_founded (registry : Registry) :
    WellFounded fun after before => registry.advance before = some after := by
  constructor
  intro comparer
  obtain ⟨value, assumed, run⟩ := registry.runs_to_answer comparer
  induction run using Relation.ReflTransGen.head_induction_on with
  | refl => exact .intro _ fun after step => by cases step
  | head step _ ih =>
      refine .intro _ fun after other => ?_
      cases step.symm.trans other
      exact ih

/-! ## What is assumed -/

/-- The assumed pairs are those whose signatures are being compared. None is assumed
twice, and each consists of distinct registered indices. -/
structure Assumes (registry : Registry) (frames : List Frame) (assumed : List (Nat × Nat)) :
    Prop where
  framed : assumed = frames.filterMap Frame.pair?
  nodup : assumed.Nodup
  registered : ∀ pair ∈ assumed,
    pair.1 ≠ pair.2 ∧ registry.contains pair.1 = true ∧ registry.contains pair.2 = true

theorem assumes_nothing (registry : Registry) : registry.Assumes [] [] :=
  ⟨rfl, .nil, fun _ member => absurd member List.not_mem_nil⟩

namespace Assumes

variable {frames : List Frame}

theorem push_pair (assumes : registry.Assumes frames assumed) {source target : Nat}
    {actual expected : FuncType} (distinct : source ≠ target) (fresh : (source, target) ∉ assumed)
    (sourceFound : registry.get? source = some actual)
    (targetFound : registry.get? target = some expected) :
    registry.Assumes (.signatures source target actual expected :: frames)
      ((source, target) :: assumed) where
  framed := congrArg ((source, target) :: ·) assumes.framed
  nodup := List.nodup_cons.mpr ⟨fresh, assumes.nodup⟩
  registered := by
    refine List.forall_mem_cons.mpr ⟨⟨distinct, ?_, ?_⟩, assumes.registered⟩
    · rw [contains, sourceFound]
      rfl
    · rw [contains, targetFound]
      rfl

theorem release {frame : Frame} (assumes : registry.Assumes (frame :: frames) assumed) :
    registry.Assumes frames (frame.release assumed) := by
  obtain ⟨framed, nodup, registered⟩ := assumes
  obtain ⟨pending, _ | pair⟩ := frame
  · exact ⟨framed, nodup, registered⟩
  · have topmost : assumed = pair :: frames.filterMap Frame.pair? := framed
    subst topmost
    exact ⟨rfl, (List.nodup_cons.mp nodup).2, fun other member =>
      registered other (List.mem_cons_of_mem _ member)⟩

theorem enter (assumes : registry.Assumes frames assumed) (comparison : Comparison) :
    registry.Assumes (registry.enter frames assumed comparison).frames
      (registry.enter frames assumed comparison).assumed := by
  fun_cases registry.enter frames assumed comparison with
  | case6 source target distinct fresh actual expected targetFound sourceFound =>
      exact assumes.push_pair distinct (mt List.contains_iff_mem.mpr fresh) sourceFound targetFound
  | case8 => exact ⟨assumes.framed, assumes.nodup, assumes.registered⟩
  | _ => exact assumes

/-- One step keeps what is known of the assumptions. -/
theorem advance {before after : Comparer} (assumes : registry.Assumes before.frames before.assumed)
    (step : registry.advance before = some after) :
    registry.Assumes after.frames after.assumed := by
  revert step
  fun_cases registry.advance before with
  | case1 comparison frames assumed =>
      rintro ⟨⟩
      exact assumes.enter comparison
  | case2 => rintro ⟨⟩
  | case3 next pending pair? frames assumed =>
      rintro ⟨⟩
      exact ⟨assumes.framed, assumes.nodup, assumes.registered⟩
  | case4 value frame frames assumed =>
      rintro ⟨⟩
      exact assumes.release

theorem run {before after : Comparer} (assumes : registry.Assumes before.frames before.assumed)
    (run : registry.Runs before after) : registry.Assumes after.frames after.assumed := by
  induction run with
  | refl => exact assumes
  | tail _ step ih => exact ih.advance step

theorem index_frames {comparer : Comparer}
    (assumes : registry.Assumes comparer.frames comparer.assumed) :
    comparer.indexFrames = comparer.assumed.length := by
  rw [assumes.framed, List.length_filterMap_eq_countP, Comparer.indexFrames]

/-- There are no more assumptions than ordered pairs of distinct registered indices. -/
theorem length_le (assumes : registry.Assumes frames assumed) :
    assumed.length ≤ registry.size * (registry.size - 1) := by
  have indicesNodup : registry.indices.Nodup :=
    List.pairwise_map.mpr (registry.ordered.imp Nat.ne_of_lt)
  have within : assumed.toFinset ⊆ registry.indices.toFinset.offDiag := by
    intro pair member
    obtain ⟨distinct, source, target⟩ := assumes.registered pair (List.mem_toFinset.mp member)
    obtain ⟨actual, sourceFound⟩ := Option.isSome_iff_exists.mp source
    obtain ⟨expected, targetFound⟩ := Option.isSome_iff_exists.mp target
    exact Finset.mem_offDiag.mpr ⟨List.mem_toFinset.mpr (mem_indices_of_get? sourceFound),
      List.mem_toFinset.mpr (mem_indices_of_get? targetFound), distinct⟩
  have indicesCard : registry.indices.toFinset.card = registry.size := by
    rw [List.toFinset_card_of_nodup indicesNodup, indices, List.length_map, size]
  calc assumed.length = assumed.toFinset.card := (List.toFinset_card_of_nodup assumes.nodup).symm
    _ ≤ registry.indices.toFinset.offDiag.card := Finset.card_le_card within
    _ = registry.size * (registry.size - 1) := by
      rw [Finset.offDiag_card, indicesCard, Nat.mul_sub_one]

theorem index_frames_le {comparer : Comparer}
    (assumes : registry.Assumes comparer.frames comparer.assumed) :
    comparer.indexFrames ≤ registry.size * (registry.size - 1) := by
  rw [assumes.index_frames]
  exact assumes.length_le

end Assumes

/-- At no moment of a run are more comparisons of indices open, the running one included,
than there are ordered pairs of distinct registered indices and one more. -/
theorem index_calls_bounded {comparison : Comparison} {comparer : Comparer}
    (run : registry.Runs (.start comparison) comparer) :
    comparer.indexCalls ≤ registry.size * (registry.size - 1) + 1 := by
  have assumes : registry.Assumes comparer.frames comparer.assumed :=
    Assumes.run registry.assumes_nothing run
  calc comparer.indexCalls ≤ comparer.indexFrames + 1 := comparer.index_calls_le
    _ ≤ registry.size * (registry.size - 1) + 1 := Nat.succ_le_succ assumes.index_frames_le

/-- Comparisons end on every registry. No run goes on for ever, from whatever state. Each
call comes back with its answer, and with the frames and the assumptions it found, whatever
they are; from an empty stack the answers are those of compatibility. In a run from an
empty stack, the assumptions are at every moment distinct pairs of distinct registered
indices, one for each comparison of indices around the current call, so that these are at
most as many as there are such pairs. -/
theorem every_comparison_comes_back (registry : Registry) :
    (WellFounded fun after before => registry.advance before = some after) ∧
    (∀ comparison frames assumed,
      registry.RunsAbove frames.length ⟨.compare comparison, frames, assumed⟩
        ⟨.answer (comparison.value registry assumed), frames, assumed⟩) ∧
    (∀ actual expected, registry.Runs (.start (.types actual expected))
      ⟨.answer (registry.compatible actual expected), [], []⟩) ∧
    (∀ actuals expecteds, registry.Runs (.start (.sequences actuals expecteds))
      ⟨.answer (registry.allCompatible actuals expecteds), [], []⟩) ∧
    ∀ comparison comparer, registry.Runs (.start comparison) comparer →
      comparer.assumed.Nodup ∧
      (∀ pair ∈ comparer.assumed,
        pair.1 ≠ pair.2 ∧ registry.contains pair.1 = true ∧ registry.contains pair.2 = true) ∧
      comparer.indexFrames = comparer.assumed.length ∧
      comparer.indexFrames ≤ registry.size * (registry.size - 1) := by
  have returns := registry.comparison_returns
  refine ⟨registry.advance_well_founded, ?_, ?_, ?_, ?_⟩
  · intro comparison frames assumed
    exact returns assumed comparison frames
  · intro actual expected
    exact (returns [] (.types actual expected) []).runs
  · intro actuals expecteds
    exact (returns [] (.sequences actuals expecteds) []).runs
  · intro comparison comparer run
    have assumes : registry.Assumes comparer.frames comparer.assumed :=
      Assumes.run registry.assumes_nothing run
    exact ⟨assumes.nodup, assumes.registered, assumes.index_frames, assumes.index_frames_le⟩

/-- Two types that refer to each other: the innermost call finds both pairs assumed, as
many as the bound allows. -/
theorem mutual_recursion_assumes_every_pair :
    let registry := (Registry.empty.insert 0 ⟨[.ref 1 true], []⟩).insert 1 ⟨[.ref 0 true], []⟩
    ∃ comparer, registry.Runs (.start (.types (.ref 0 true) (.ref 1 true))) comparer ∧
      comparer.focus = .compare (.indices 0 1) ∧ comparer.assumed = [(1, 0), (0, 1)] ∧
      comparer.indexFrames = registry.size * (registry.size - 1) ∧ comparer.assumed.Nodup := by
  intro registry
  have run : registry.Runs (.start (.types (.ref 0 true) (.ref 1 true))) _ :=
    .head rfl <| .head rfl <| .head rfl <| .head rfl <| .head rfl <| .head rfl <| .head rfl <|
      .head rfl <| .head rfl <| .head rfl <| .head rfl .refl
  obtain ⟨-, -, -, -, assumptions⟩ := every_comparison_comes_back registry
  exact ⟨_, run, rfl, rfl, rfl, (assumptions _ _ run).1⟩

end Registry

end WasmTyping
