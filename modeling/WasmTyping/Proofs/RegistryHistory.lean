import Mathlib.Data.Finset.Card
import Mathlib.Data.List.Sort
import WasmTyping.Registry

/-!
# Registries and what was written to them

A registry keeps its entries in order and overwrites in place. A list of all that was ever
written, the latest first, keeps no order and forgets nothing. Both answer every lookup in
the same way, and both agree on which index comes next. So a registry can be understood
from the registrations alone, in whichever order they were made.
-/

set_option autoImplicit false

namespace WasmTyping

namespace Registry

/-! ## Entries and indices -/

theorem mem_iff_lookup {entries : List (Nat × FuncType)}
    (ordered : entries.Pairwise fun left right => left.1 < right.1) (index : Nat)
    (type : FuncType) : (index, type) ∈ entries ↔ entries.lookup index = some type := by
  induction entries with
  | nil => simp
  | cons head rest ih =>
      obtain ⟨first, held⟩ := head
      obtain ⟨above, tail⟩ := List.pairwise_cons.mp ordered
      rw [lookup_entry_cons, List.mem_cons, Prod.mk.injEq]
      by_cases here : index = first
      · subst here
        have absent : (index, type) ∉ rest := fun member => Nat.lt_irrefl index (above _ member)
        simp [absent, eq_comm]
      · simp [here, ih tail]

theorem mem_entries_iff (registry : Registry) (index : Nat) (type : FuncType) :
    (index, type) ∈ registry.entries ↔ registry.get? index = some type :=
  mem_iff_lookup registry.ordered index type

theorem lookup_is_some_iff (entries : List (Nat × FuncType)) (index : Nat) :
    (entries.lookup index).isSome = true ↔ index ∈ entries.map Prod.fst := by
  rw [List.lookup_isSome_iff, List.mem_map]
  simp only [beq_iff_eq, @eq_comm _ index]

/-- Registries that answer alike are the same. -/
theorem eq_of_get? {first second : Registry}
    (same : ∀ index, first.get? index = second.get? index) : first = second := by
  have entries : first.entries = second.entries := by
    have asymmetric : Std.Antisymm fun left right : Nat × FuncType => left.1 < right.1 :=
      ⟨fun _ _ below above => absurd below (Nat.lt_asymm above)⟩
    have irreflexive : Std.Irrefl fun left right : Nat × FuncType => left.1 < right.1 :=
      ⟨fun entry => Nat.lt_irrefl entry.1⟩
    apply List.Pairwise.eq_of_mem_iff first.ordered second.ordered
    rintro ⟨index, type⟩
    rw [mem_entries_iff, mem_entries_iff, same]
  obtain ⟨left, _⟩ := first
  obtain ⟨right, _⟩ := second
  cases entries
  rfl

theorem indices_increase (registry : Registry) : registry.indices.Pairwise (· < ·) :=
  List.pairwise_map.mpr registry.ordered

/-! ## The next index -/

/-- The next index is the least one beyond all registered ones. -/
theorem next_index_le_iff (registry : Registry) (bound : Nat) :
    registry.nextIndex ≤ bound ↔ ∀ index ∈ registry.indices, index < bound := by
  have increase := registry.indices_increase
  unfold nextIndex
  unfold indices at increase ⊢
  cases greatest : registry.entries.getLast? with
  | none => simp [List.getLast?_eq_none_iff.mp greatest]
  | some last =>
      obtain ⟨before, entries⟩ := List.getLast?_eq_some_iff.mp greatest
      rw [entries, List.map_append] at increase ⊢
      have below := (List.pairwise_append.mp increase).2.2
      constructor
      · intro beyond index member
        rcases List.mem_append.mp member with earlier | final
        · exact Nat.lt_trans (below index earlier last.1 List.mem_cons_self) beyond
        · rw [List.mem_singleton.mp final]
          exact beyond
      · intro above
        exact above last.1 (List.mem_append_right _ List.mem_cons_self)

theorem lt_next_index {registry : Registry} {index : Nat} {type : FuncType}
    (found : registry.get? index = some type) : index < registry.nextIndex :=
  (registry.next_index_le_iff _).mp (Nat.le_refl _) index (mem_indices_of_get? found)

theorem insert_entry_of_greater {entries : List (Nat × FuncType)} {index : Nat}
    (above : ∀ entry ∈ entries, entry.1 < index) (type : FuncType) :
    insertEntry index type entries = entries ++ [(index, type)] := by
  induction entries with
  | nil => rfl
  | cons head rest ih =>
      have below : head.1 < index := above head List.mem_cons_self
      rw [insertEntry, if_neg (Nat.lt_asymm below), if_neg (Nat.ne_of_gt below),
        ih fun entry member => above entry (List.mem_cons_of_mem head member)]
      rfl

/-- A type that is pushed comes after all the others. -/
theorem push_entries (registry : Registry) (type : FuncType) :
    (registry.push type).2.entries = registry.entries ++ [(registry.nextIndex, type)] := by
  apply insert_entry_of_greater
  intro entry member
  exact (registry.next_index_le_iff _).mp (Nat.le_refl _) entry.1
    (List.mem_map_of_mem member)

theorem push_next_index (registry : Registry) (type : FuncType) :
    (registry.push type).2.nextIndex = registry.nextIndex + 1 := by
  rw [nextIndex, push_entries, List.getLast?_concat]

/-! ## Registrations -/

/-- A type is registered at an index that is given, or at the next one. -/
inductive Registration where
  | insert (index : Nat) (type : FuncType)
  | push (type : FuncType)

def register (registry : Registry) : Registration → Registry
  | .insert index type => (registry.replace index type).2
  | .push type => (registry.push type).2

def registerAll (registry : Registry) (registrations : List Registration) : Registry :=
  registrations.foldl register registry

/-- One past the greatest of some indices, zero if there is none. -/
def beyond (indices : List Nat) : Nat :=
  indices.foldr (fun index bound => max (index + 1) bound) 0

/-- Add what a registration writes to what was written before, the latest first. -/
def write (written : List (Nat × FuncType)) : Registration → List (Nat × FuncType)
  | .insert index type => (index, type) :: written
  | .push type => (beyond (written.map Prod.fst), type) :: written

/-- All that some registrations write, the latest first. -/
def history (registrations : List Registration) : List (Nat × FuncType) :=
  registrations.foldl write []

theorem beyond_le_iff (indices : List Nat) (bound : Nat) :
    beyond indices ≤ bound ↔ ∀ index ∈ indices, index < bound := by
  induction indices with
  | nil => simp [beyond]
  | cons head rest ih =>
      rw [List.forall_mem_cons, ← ih]
      exact max_le_iff

/-- A registry answers every lookup like a list of what was written, where the latest entry
for an index counts. -/
def Records (registry : Registry) (written : List (Nat × FuncType)) : Prop :=
  ∀ index, registry.get? index = written.lookup index

namespace Records

variable {registry : Registry} {written : List (Nat × FuncType)}

theorem mem_indices_iff (records : registry.Records written) (index : Nat) :
    index ∈ registry.indices ↔ index ∈ written.map Prod.fst := by
  rw [← lookup_is_some_iff, ← records index]
  exact (lookup_is_some_iff registry.entries index).symm

theorem next_index (records : registry.Records written) :
    registry.nextIndex = beyond (written.map Prod.fst) := by
  apply eq_of_forall_ge_iff
  intro bound
  rw [next_index_le_iff, beyond_le_iff]
  simp only [records.mem_indices_iff]

theorem insert (records : registry.Records written) (index : Nat) (type : FuncType) :
    (registry.insert index type).Records ((index, type) :: written) := by
  intro other
  rw [get?_insert, lookup_entry_cons, records other]

/-- One registration is recorded. -/
theorem register (records : registry.Records written) (registration : Registration) :
    (registry.register registration).Records (write written registration) := by
  cases registration with
  | insert index type => exact records.insert index type
  | push type =>
      rw [write, ← records.next_index]
      exact records.insert registry.nextIndex type

/-- Every registration is recorded. -/
theorem register_all (records : registry.Records written) (registrations : List Registration) :
    (registry.registerAll registrations).Records (registrations.foldl write written) := by
  induction registrations generalizing registry written with
  | nil => exact records
  | cons registration rest ih => exact ih (records.register registration)

/-- The registered indices are as many as the different ones that were written. -/
theorem size (records : registry.Records written) :
    registry.size = (written.map Prod.fst).toFinset.card := by
  have distinct : registry.indices.Nodup := registry.indices_increase.imp Nat.ne_of_lt
  have same : registry.indices.toFinset = (written.map Prod.fst).toFinset := by
    ext index
    rw [List.mem_toFinset, List.mem_toFinset, records.mem_indices_iff]
  rw [← same, List.toFinset_card_of_nodup distinct, indices, List.length_map]
  rfl

end Records

theorem records_history (registrations : List Registration) :
    (empty.registerAll registrations).Records (history registrations) := by
  have start : empty.Records [] := fun _ => rfl
  exact start.register_all registrations

/-! ## The range of indices -/

/-- Indices are 32-bit numbers. -/
def greatestIndex : Nat := 4294967295

/-- The index that is given is in range, or the greatest one is still free. -/
def Registration.fits (registry : Registry) : Registration → Bool
  | insert index _ => index ≤ greatestIndex
  | push _ => !registry.contains greatestIndex

/-- Every registration fits the registry that the ones before it lead to. -/
def allFit : Registry → List Registration → Bool
  | _, [] => true
  | registry, registration :: rest =>
    registration.fits registry && (registry.register registration).allFit rest

def InRange (registry : Registry) : Prop :=
  ∀ index ∈ registry.indices, index ≤ greatestIndex

namespace InRange

variable {registry : Registry}

theorem insert {index : Nat} (inRange : registry.InRange) (fits : index ≤ greatestIndex)
    (type : FuncType) : (registry.insert index type).InRange := by
  intro other member
  obtain ⟨entry, written, rfl⟩ := List.mem_map.mp member
  rcases mem_insert_entry written with same | old
  · rw [same]
    exact fits
  · exact inRange entry.1 (List.mem_map_of_mem old)

/-- Below a greatest index that is free there is room for one more. -/
theorem next_index_le (inRange : registry.InRange)
    (free : registry.contains greatestIndex = false) : registry.nextIndex ≤ greatestIndex := by
  rw [next_index_le_iff]
  intro index member
  refine Nat.lt_of_le_of_ne (inRange index member) ?_
  rintro rfl
  have taken : registry.contains greatestIndex = true :=
    (lookup_is_some_iff registry.entries greatestIndex).mpr member
  rw [free] at taken
  cases taken

theorem register {registration : Registration} (inRange : registry.InRange)
    (fits : registration.fits registry = true) : (registry.register registration).InRange := by
  cases registration with
  | insert index type => exact inRange.insert (of_decide_eq_true fits) type
  | push type =>
      have free : registry.contains greatestIndex = false := (Bool.not_eq_true' _).mp fits
      exact inRange.insert (inRange.next_index_le free) type

theorem register_all {registrations : List Registration} (inRange : registry.InRange)
    (fit : registry.allFit registrations = true) :
    (registry.registerAll registrations).InRange := by
  induction registrations generalizing registry with
  | nil => exact inRange
  | cons registration rest ih =>
      obtain ⟨first, later⟩ := Bool.and_eq_true_iff.mp fit
      exact ih (inRange.register first) later

end InRange

/-! ## Registries of lists -/

theorem of_list_concat (types : List FuncType) (type : FuncType) :
    ofList (types ++ [type]) = ((ofList types).push type).2 :=
  List.foldl_concat _ _ _ _

theorem of_list_next_index (types : List FuncType) : (ofList types).nextIndex = types.length := by
  induction types using List.reverseRecOn with
  | nil => rfl
  | append_singleton types type ih =>
      rw [of_list_concat, push_next_index, ih, List.length_append]
      rfl

/-- The types of a list are registered at their positions. -/
theorem of_list_entries (types : List FuncType) :
    (ofList types).entries = types.zipIdx.map Prod.swap := by
  induction types using List.reverseRecOn with
  | nil => rfl
  | append_singleton types type ih =>
      rw [of_list_concat, push_entries, ih, of_list_next_index, List.zipIdx_append,
        List.map_append, Nat.zero_add]
      rfl

/-- After any registrations, in any order, a registry is a finite map that holds the last
type written to each index. An insertion answers with the type that it replaces. A push goes
beyond every registered index, starting from zero, and touches no other one. The entries are
listed by increasing index, each once, and nothing but what is found at the indices counts
for equality. Indices stay in range as long as nothing is pushed after the greatest one is
taken. A registry made from a list holds its types at their positions. -/
theorem registrations_build_a_finite_map (registrations : List Registration) :
    let registry := empty.registerAll registrations
    let written := history registrations
    (∀ index, registry.get? index = written.lookup index) ∧
    (∀ index type, (registry.replace index type).1 = written.lookup index) ∧
    (∀ type,
      let pushed := registry.push type
      pushed.1 = beyond (written.map Prod.fst) ∧
      (∀ index ∈ registry.indices, index < pushed.1) ∧
      (registry.isEmpty = true → pushed.1 = 0) ∧
      ∀ index, pushed.2.get? index =
        if index = pushed.1 then some type else registry.get? index) ∧
    registry.indices.Pairwise (· < ·) ∧
    (∀ index type, (index, type) ∈ registry.entries ↔ written.lookup index = some type) ∧
    registry.size = (written.map Prod.fst).toFinset.card ∧
    (∀ other : Registry,
      registry = other ↔ ∀ index, registry.get? index = other.get? index) ∧
    (empty.allFit registrations = true → registry.InRange) ∧
    ∀ types : List FuncType, (ofList types).entries = types.zipIdx.map Prod.swap := by
  intro registry written
  have records : registry.Records written := records_history registrations
  refine ⟨records, fun index _ => records index, fun type => ⟨records.next_index, ?_, ?_, ?_⟩,
    registry.indices_increase, ?_, records.size, ?_, ?_, of_list_entries⟩
  · exact (registry.next_index_le_iff _).mp (Nat.le_refl _)
  · intro none
    have entries : registry.entries = [] := List.isEmpty_iff.mp none
    show registry.nextIndex = 0
    rw [nextIndex, entries]
    rfl
  · intro index
    exact registry.get?_insert registry.nextIndex index type
  · intro index type
    rw [mem_entries_iff, records index]
  · intro other
    constructor
    · rintro rfl index
      rfl
    · exact eq_of_get?
  · intro fit
    have start : empty.InRange := by
      intro index member
      cases member
    exact start.register_all fit

/-- The greatest index is reached by a push, after an index below it was written. Later
insertions fill gaps and replace a type. -/
theorem push_reaches_greatest_index :
    let first : FuncType := ⟨[.i32], []⟩
    let second : FuncType := ⟨[], [.ref 3 true]⟩
    let registrations : List Registration :=
      [.insert 4294967294 first, .insert 3 first, .push second, .insert 3 second,
        .insert 0 first]
    let registry := empty.registerAll registrations
    empty.allFit registrations = true ∧ registry.InRange ∧
      registry.get? 3 = some second ∧ registry.get? greatestIndex = some second ∧
      registry.get? 4 = none ∧ (registry.replace 3 first).1 = some second ∧
      registry.indices = [0, 3, 4294967294, 4294967295] ∧ registry.size = 4 := by
  intro first second registrations registry
  have fit : empty.allFit registrations = true := by decide
  obtain ⟨found, replaced, -, -, -, size, -, inRange, -⟩ :=
    registrations_build_a_finite_map registrations
  refine ⟨fit, inRange fit, ?_, ?_, ?_, ?_, by decide, ?_⟩
  · rw [found]
    rfl
  · rw [found]
    rfl
  · rw [found]
    rfl
  · rw [replaced]
    rfl
  · rw [size]
    decide

end Registry

end WasmTyping
