import Mathlib.Data.List.Basic
import Mathlib.Data.Prod.Basic
import Mathlib.Data.Set.Operations
import WasmTyping.Proofs.StructuralCompatibility

/-!
# Numbering of types

The indices of a registry are names. If every entry is moved to another index and every
index that is mentioned, registered or not, is replaced in the same way, then types
compare as before. The comparison meets the same pairs under their new names, and it
assumes the same pairs on the way.
-/

set_option autoImplicit false

namespace WasmTyping

/-! ## Types and registries under new numbers -/

/-- Replace the index of a reference. -/
def ValueType.renumber (number : Nat → Nat) : ValueType → ValueType
  | ref index nullable => ref (number index) nullable
  | type => type

def FuncType.renumber (number : Nat → Nat) (type : FuncType) : FuncType :=
  ⟨type.params.map (.renumber number), type.results.map (.renumber number)⟩

namespace Registry

/-- Register an entry under its new index. -/
def place (number : Nat → Nat) (registry : Registry) (entry : Nat × FuncType) : Registry :=
  registry.insert (number entry.1) (entry.2.renumber number)

/-- Every entry at its new index, with the new indices inside. -/
def renumber (registry : Registry) (number : Nat → Nat) : Registry :=
  registry.entries.foldl (place number) empty

theorem lookup_of_lt {index : Nat} {entries : List (Nat × FuncType)}
    (above : ∀ entry ∈ entries, index < entry.1) : entries.lookup index = none := by
  rw [List.lookup_eq_none_iff]
  intro entry member
  have apart := Nat.ne_of_lt (above entry member)
  simpa using apart

/-- Entries that are placed one after the other are found under their new indices. An
index occurs once among them, so none is replaced by a later one. -/
theorem get?_place_all {number : Nat → Nat} (injective : Function.Injective number)
    {entries : List (Nat × FuncType)}
    (ordered : entries.Pairwise fun left right => left.1 < right.1) (start : Registry)
    (index : Nat) :
    (entries.foldl (place number) start).get? (number index) =
      ((entries.lookup index).map (FuncType.renumber number)).or
        (start.get? (number index)) := by
  induction entries generalizing start with
  | nil => rfl
  | cons entry rest ih =>
      obtain ⟨above, tail⟩ := List.pairwise_cons.mp ordered
      rw [List.foldl_cons, ih tail, lookup_entry_cons, place, get?_insert]
      by_cases here : index = entry.1
      · have last : rest.lookup index = none := lookup_of_lt (here ▸ above)
        simp [here, here ▸ last]
      · have apart : number index ≠ number entry.1 := fun same => here (injective same)
        simp [here, apart]

theorem get?_renumber (registry : Registry) {number : Nat → Nat}
    (injective : Function.Injective number) (index : Nat) :
    (registry.renumber number).get? (number index) =
      (registry.get? index).map (FuncType.renumber number) := by
  rw [renumber, get?_place_all injective registry.ordered, get?]
  exact Option.or_none

theorem get?_place_all_of_foreign {number : Nat → Nat} {index : Nat}
    (foreign : index ∉ Set.range number) (entries : List (Nat × FuncType)) (start : Registry) :
    (entries.foldl (place number) start).get? index = start.get? index := by
  induction entries generalizing start with
  | nil => rfl
  | cons entry rest ih =>
      have apart : index ≠ number entry.1 := fun same => foreign ⟨entry.1, same.symm⟩
      rw [List.foldl_cons, ih, place, get?_insert, if_neg apart]

end Registry

/-! ## Comparison under new numbers -/

section Comparison

variable {number : Nat → Nat} {related renumbered : Nat → Nat → Bool}
  (agree : ∀ source target, renumbered (number source) (number target) = related source target)

include agree

theorem fits_renumber (actual expected : ValueType) :
    (actual.renumber number).fits renumbered (expected.renumber number) =
      actual.fits related expected := by
  cases actual with
  | ref source nullable =>
      cases expected with
      | ref target admits =>
          show (nullFits nullable admits && renumbered (number source) (number target)) =
            (nullFits nullable admits && related source target)
          rw [agree]
      | _ => rfl
  | _ => cases expected <;> rfl

theorem all_fit_renumber (actuals expecteds : List ValueType) :
    ValueType.allFit renumbered (actuals.map (.renumber number))
        (expecteds.map (.renumber number)) =
      ValueType.allFit related actuals expecteds := by
  have pairs (pair : ValueType × ValueType) :
      (Prod.map (ValueType.renumber number) (ValueType.renumber number) pair).1.fits renumbered
          (Prod.map (ValueType.renumber number) (ValueType.renumber number) pair).2 =
        pair.1.fits related pair.2 :=
    fits_renumber agree pair.1 pair.2
  unfold ValueType.allFit
  rw [List.length_map, List.length_map, List.zip_map, List.all_map]
  simp only [Function.comp_def, pairs]

end Comparison

namespace Registry

section Renumbered

variable (registry : Registry) {number : Nat → Nat} (injective : Function.Injective number)

include injective

theorem mem_renumbered_pairs_iff (assumed : List (Nat × Nat)) (source target : Nat) :
    (number source, number target) ∈ assumed.map (Prod.map number number) ↔
      (source, target) ∈ assumed := by
  have pairs : Function.Injective (Prod.map number number) := injective.prodMap injective
  rw [← Prod.map_apply]
  exact List.mem_map_of_injective pairs

/-- The assumed pairs are renumbered with everything else. The induction is on the pairs
that are not assumed yet. -/
theorem index_fits_renumber (assumed : List (Nat × Nat)) (source target : Nat) :
    (registry.renumber number).indexFits (assumed.map (Prod.map number number)) (number source)
        (number target) =
      registry.indexFits assumed source target := by
  by_cases same : source = target
  · rw [same, indexFits, if_pos rfl, indexFits, if_pos rfl]
  have distinct : number source ≠ number target := fun equal => same (injective equal)
  have members := mem_renumbered_pairs_iff injective assumed source target
  by_cases member : (source, target) ∈ assumed
  · rw [indexFits, if_neg distinct, dif_pos (members.mpr member), indexFits, if_neg same,
      dif_pos member]
  rw [index_fits_of_fresh distinct (mt members.mp member), index_fits_of_fresh same member,
    registry.get?_renumber injective, registry.get?_renumber injective]
  cases sourceFound : registry.get? source with
  | none => rfl
  | some actual =>
      cases targetFound : registry.get? target with
      | none => rfl
      | some expected =>
          have smaller := length_unassumed_cons_lt member sourceFound targetFound
          have nested (left right : Nat) := index_fits_renumber ((source, target) :: assumed)
            left right
          have params := all_fit_renumber nested actual.params expected.params
          have results := all_fit_renumber nested actual.results expected.results
          exact congrArg₂ Bool.and params results
termination_by (registry.unassumed assumed).length

/-- Under an injective renumbering every entry of a registry is found at its new index and
nothing else is registered, and types and sequences of types compare as they did before. -/
theorem compatibility_ignores_numbering :
    (∀ index, (registry.renumber number).get? (number index) =
      (registry.get? index).map (FuncType.renumber number)) ∧
    (∀ index, index ∉ Set.range number → (registry.renumber number).get? index = none) ∧
    (∀ actual expected : ValueType,
      (registry.renumber number).compatible (actual.renumber number) (expected.renumber number) =
        registry.compatible actual expected) ∧
    ∀ actuals expecteds : List ValueType,
      (registry.renumber number).allCompatible (actuals.map (.renumber number))
          (expecteds.map (.renumber number)) =
        registry.allCompatible actuals expecteds := by
  have indices := registry.index_fits_renumber injective []
  refine ⟨registry.get?_renumber injective, ?_, ?_, ?_⟩
  · intro index foreign
    exact get?_place_all_of_foreign foreign registry.entries empty
  · exact fits_renumber indices
  · exact all_fit_renumber indices

end Renumbered

/-- Two pairs of types that refer to each other and to an index that is not registered,
numbered backwards. -/
theorem mutual_references_numbered_backwards :
    let registry := Registry.ofList
      [⟨[.ref 1 false], []⟩, ⟨[.ref 0 true], [.ref 9 false]⟩,
        ⟨[.ref 3 false], []⟩, ⟨[.ref 2 true], [.ref 9 true]⟩]
    let number : Nat → Nat := fun index => if index < 4 then 7 - index else index + 4
    Function.Injective number ∧
      (registry.renumber number).get? 6 = some ⟨[.ref 7 true], [.ref 13 false]⟩ ∧
      (registry.renumber number).get? 3 = none ∧
      (registry.renumber number).compatible (.ref 7 false) (.ref 5 true) = true ∧
      (registry.renumber number).allCompatible [.ref 6 false, .i32] [.ref 4 false, .any] =
        true := by
  intro registry number
  have injective : Function.Injective number := by
    intro left right same
    simp only [number] at same
    split at same <;> split at same <;> omega
  have simulation : registry.Simulation fun source target =>
      source = 0 ∧ target = 2 ∨ source = 1 ∧ target = 3 := by
    rintro _ _ (⟨rfl, rfl⟩ | ⟨rfl, rfl⟩)
    · exact .inr ⟨_, _, rfl, rfl, .cons (.ref (.inr rfl) (.inr (.inr ⟨rfl, rfl⟩))) .nil, .nil⟩
    · exact .inr ⟨_, _, rfl, rfl, .cons (.ref (.inl rfl) (.inr (.inl ⟨rfl, rfl⟩))) .nil,
        .cons (.ref (.inl rfl) (.inl rfl)) .nil⟩
  have first : registry.compatible (.ref 0 false) (.ref 2 true) = true :=
    (registry.compatible_iff_exists_simulation _ _).mpr
      ⟨_, .ref (.inl rfl) (.inr (.inl ⟨rfl, rfl⟩)), simulation⟩
  have second : registry.compatible (.ref 1 false) (.ref 3 false) = true :=
    (registry.compatible_iff_exists_simulation _ _).mpr
      ⟨_, .ref (.inr rfl) (.inr (.inr ⟨rfl, rfl⟩)), simulation⟩
  have both : registry.allCompatible [.ref 1 false, .i32] [.ref 3 false, .any] = true :=
    (registry.all_compatible_iff _ _).mpr (.cons second (.cons rfl .nil))
  obtain ⟨moved, nothing, types, sequences⟩ :=
    compatibility_ignores_numbering registry injective
  have foreign : 3 ∉ Set.range number := by
    rintro ⟨index, same⟩
    simp only [number] at same
    split at same <;> omega
  exact ⟨injective, moved 1, nothing 3 foreign, (types (.ref 0 false) (.ref 2 true)).trans first,
    (sequences [.ref 1 false, .i32] [.ref 3 false, .any]).trans both⟩

end Registry

end WasmTyping
