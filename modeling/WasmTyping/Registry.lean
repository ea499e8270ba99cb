import WasmTyping.FuncType

/-!
# Function type registry

A finite map from type indices to function types. Indices may have gaps, and a
registered type may mention indices that are not registered. Entries are kept in
strictly increasing index order, so registries with the same content are equal.
-/

set_option autoImplicit false

namespace WasmTyping

/-- Write one entry of an index-ordered list. -/
def insertEntry (index : Nat) (type : FuncType) : List (Nat × FuncType) → List (Nat × FuncType)
  | [] => [(index, type)]
  | entry :: rest =>
    if index < entry.1 then (index, type) :: entry :: rest
    else if index = entry.1 then (index, type) :: rest
    else entry :: insertEntry index type rest

theorem mem_insert_entry {index : Nat} {type : FuncType} {entries : List (Nat × FuncType)}
    {entry : Nat × FuncType} (member : entry ∈ insertEntry index type entries) :
    entry = (index, type) ∨ entry ∈ entries := by
  induction entries with
  | nil => simpa [insertEntry] using member
  | cons head rest ih =>
    simp only [insertEntry] at member
    split at member
    · simpa using member
    · split at member
      · rcases List.mem_cons.mp member with here | there
        · exact .inl here
        · exact .inr (List.mem_cons_of_mem _ there)
      · rcases List.mem_cons.mp member with here | there
        · exact .inr (here ▸ List.mem_cons_self)
        · exact (ih there).imp_right (List.mem_cons_of_mem _)

theorem insert_entry_ordered {index : Nat} {type : FuncType} {entries : List (Nat × FuncType)}
    (ordered : entries.Pairwise fun left right => left.1 < right.1) :
    (insertEntry index type entries).Pairwise fun left right => left.1 < right.1 := by
  induction entries with
  | nil => simp [insertEntry]
  | cons head rest ih =>
    obtain ⟨above, tail⟩ := List.pairwise_cons.mp ordered
    simp only [insertEntry]
    split
    · rename_i below
      refine List.pairwise_cons.mpr ⟨fun entry member => ?_, ordered⟩
      rcases List.mem_cons.mp member with here | there
      · simpa [here] using below
      · exact Nat.lt_trans below (above entry there)
    · split
      · rename_i same
        exact List.pairwise_cons.mpr ⟨fun entry member => same ▸ above entry member, tail⟩
      · rename_i notBelow notSame
        refine List.pairwise_cons.mpr ⟨fun entry member => ?_, ih tail⟩
        rcases mem_insert_entry member with here | there
        · simp only [here]
          omega
        · exact above entry there

/-- Function types by index. -/
structure Registry where
  entries : List (Nat × FuncType)
  ordered : entries.Pairwise fun left right => left.1 < right.1
  deriving DecidableEq

namespace Registry

def empty : Registry := ⟨[], .nil⟩

def get? (registry : Registry) (index : Nat) : Option FuncType :=
  registry.entries.lookup index

def contains (registry : Registry) (index : Nat) : Bool :=
  (registry.get? index).isSome

def size (registry : Registry) : Nat :=
  registry.entries.length

def isEmpty (registry : Registry) : Bool :=
  registry.entries.isEmpty

/-- The registered indices in increasing order. -/
def indices (registry : Registry) : List Nat :=
  registry.entries.map Prod.fst

/-- Register a type at an index, in place of any type held there. -/
def insert (registry : Registry) (index : Nat) (type : FuncType) : Registry :=
  ⟨insertEntry index type registry.entries, insert_entry_ordered registry.ordered⟩

/-- Register a type at an index and return the type held there before. -/
def replace (registry : Registry) (index : Nat) (type : FuncType) : Option FuncType × Registry :=
  (registry.get? index, registry.insert index type)

/-- One past the greatest registered index, zero when there is none. -/
def nextIndex (registry : Registry) : Nat :=
  match registry.entries.getLast? with
  | none => 0
  | some entry => entry.1 + 1

/-- Register a type at the next index and return that index. -/
def push (registry : Registry) (type : FuncType) : Nat × Registry :=
  (registry.nextIndex, registry.insert registry.nextIndex type)

theorem lookup_entry_cons (other : Nat) (entry : Nat × FuncType)
    (rest : List (Nat × FuncType)) :
    (entry :: rest).lookup other = if other = entry.1 then some entry.2 else rest.lookup other := by
  obtain ⟨index, type⟩ := entry
  rw [List.lookup_cons]
  by_cases same : other = index
  · simp [same]
  · have differ : (other == index) = false := by simpa using same
    simp [differ, same]

theorem lookup_insert_entry (index other : Nat) (type : FuncType)
    (entries : List (Nat × FuncType)) :
    (insertEntry index type entries).lookup other =
      if other = index then some type else entries.lookup other := by
  induction entries with
  | nil => simp [insertEntry, lookup_entry_cons]
  | cons head rest ih =>
    simp only [insertEntry]
    split
    · simp [lookup_entry_cons]
    · split
      · rename_i atHead
        by_cases same : other = index <;> simp [lookup_entry_cons, ← atHead, same]
      · rename_i notAtHead
        by_cases here : other = head.1
        · have apart : ¬ head.1 = index := fun equal => notAtHead equal.symm
          simp [lookup_entry_cons, here, apart]
        · simp [lookup_entry_cons, here, ih]

/-- A registration is seen at its own index and nowhere else. -/
theorem get?_insert (registry : Registry) (index other : Nat) (type : FuncType) :
    (registry.insert index type).get? other =
      if other = index then some type else registry.get? other :=
  lookup_insert_entry index other type registry.entries

theorem mem_indices_of_get? {registry : Registry} {index : Nat} {type : FuncType}
    (found : registry.get? index = some type) : index ∈ registry.indices := by
  obtain ⟨entries, ordered⟩ := registry
  simp only [get?, indices] at found ⊢
  clear ordered
  induction entries with
  | nil => simp at found
  | cons entry rest ih =>
    rw [lookup_entry_cons] at found
    split at found
    · rename_i same
      simp [same]
    · exact List.mem_cons_of_mem _ (ih found)

/-- Register types in order from an empty registry. -/
def ofList (types : List FuncType) : Registry :=
  types.foldl (fun registry type => (registry.push type).2) empty

end Registry

end WasmTyping
