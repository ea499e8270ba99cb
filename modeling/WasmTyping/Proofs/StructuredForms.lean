import WasmTyping.Instruction

/-!
# Structured forms

The code of a body as a tree, over all instructions: every region holds its code
instead of being bracketed. The instructions of a tree are read off from left to
right, and no two trees have the same instructions, whatever follows them that
continues or closes a region.
-/

set_option autoImplicit false

namespace WasmTyping

/-- Whether an instruction ends an arm of the region it stands in. -/
def Instruction.endsArm : Instruction → Bool
  | elseArm | endBlock | catchTag _ | catchAll | delegate _ => true
  | _ => false

/-- Whether an instruction neither opens a region nor ends an arm of one. -/
def Instruction.isPlain (instruction : Instruction) : Bool :=
  !instruction.opensRegion && !instruction.endsArm

/-- The structured instructions whose region has one arm. -/
inductive Opener where
  | block (type : BlockType)
  | loop (type : BlockType)
  | tryTable (type : BlockType) (clauses : List CatchClause)
  deriving DecidableEq

def Opener.instruction : Opener → Instruction
  | block type => .enter .block type
  | loop type => .enter .loop type
  | tryTable type clauses => .tryTable type clauses

/-- How a handler of a `try` begins. -/
inductive Handler where
  | tag (index : Nat)
  | all
  deriving DecidableEq

def Handler.instruction : Handler → Instruction
  | tag index => .catchTag index
  | all => .catchAll

mutual

/-- A structured sequence, one form after the other. -/
inductive Forms where
  | done
  | plain (instruction : Instruction) (isPlain : instruction.isPlain = true) (rest : Forms)
  | region (opener : Opener) (body rest : Forms)
  | ifThen (type : BlockType) (arm rest : Forms)
  | ifElse (type : BlockType) (arm other rest : Forms)
  | tryCatch (type : BlockType) (body : Forms) (handlers : Handlers) (rest : Forms)
  | tryDelegate (type : BlockType) (body : Forms) (depth : Nat) (rest : Forms)

/-- The handlers of a `try`, in any number. -/
inductive Handlers where
  | done
  | handler (head : Handler) (body : Forms) (rest : Handlers)

end

mutual

/-- The instructions in the order they are written. -/
def Forms.flatten : Forms → List Instruction
  | .done => []
  | .plain instruction _ rest => instruction :: rest.flatten
  | .region opener body rest =>
    opener.instruction :: (body.flatten ++ .endBlock :: rest.flatten)
  | .ifThen type arm rest => .enter .ifThen type :: (arm.flatten ++ .endBlock :: rest.flatten)
  | .ifElse type arm other rest =>
    .enter .ifThen type ::
      (arm.flatten ++ .elseArm :: (other.flatten ++ .endBlock :: rest.flatten))
  | .tryCatch type body handlers rest =>
    .enter .tryBlock type :: (body.flatten ++ (handlers.flatten ++ .endBlock :: rest.flatten))
  | .tryDelegate type body depth rest =>
    .enter .tryBlock type :: (body.flatten ++ .delegate depth :: rest.flatten)

def Handlers.flatten : Handlers → List Instruction
  | .done => []
  | .handler head body rest => head.instruction :: (body.flatten ++ rest.flatten)

end

/-- The next instruction ends an arm. -/
def ArmEnds (rest : List Instruction) : Prop :=
  ∃ instruction more, rest = instruction :: more ∧ instruction.endsArm = true

theorem ArmEnds.cons {instruction : Instruction} (ends : instruction.endsArm = true)
    (more : List Instruction) : ArmEnds (instruction :: more) :=
  ⟨instruction, more, rfl, ends⟩

theorem Handlers.arm_ends (handlers : Handlers) (rest : List Instruction) :
    ArmEnds (handlers.flatten ++ .endBlock :: rest) := by
  cases handlers with
  | done => exact .cons rfl rest
  | handler head body others => cases head <;> exact .cons rfl _

theorem Handlers.ne_delegate {handlers : Handlers} {rest others : List Instruction}
    {depth : Nat} : handlers.flatten ++ .endBlock :: rest ≠ .delegate depth :: others := by
  intro same
  cases handlers with
  | done => cases same
  | handler head body more =>
      obtain ⟨begun, -⟩ := List.cons.inj same
      cases head <;> cases begun

theorem Handlers.handler_append (head : Handler) (body : Forms) (more : Handlers)
    (rest : List Instruction) :
    (handler head body more).flatten ++ rest =
      head.instruction :: (body.flatten ++ (more.flatten ++ rest)) := by
  simp [Handlers.flatten]

namespace Forms

/-! ## The form a sequence begins with -/

section Forms

theorem region_append (opener : Opener) (body more : Forms) (rest : List Instruction) :
    (region opener body more).flatten ++ rest =
      opener.instruction :: (body.flatten ++ .endBlock :: (more.flatten ++ rest)) := by
  simp [flatten]

theorem if_then_append (type : BlockType) (arm more : Forms) (rest : List Instruction) :
    (ifThen type arm more).flatten ++ rest =
      .enter .ifThen type :: (arm.flatten ++ .endBlock :: (more.flatten ++ rest)) := by
  simp [flatten]

theorem if_else_append (type : BlockType) (arm other more : Forms) (rest : List Instruction) :
    (ifElse type arm other more).flatten ++ rest =
      .enter .ifThen type :: (arm.flatten ++
        .elseArm :: (other.flatten ++ .endBlock :: (more.flatten ++ rest))) := by
  simp [flatten]

theorem try_catch_append (type : BlockType) (body : Forms) (handlers : Handlers) (more : Forms)
    (rest : List Instruction) :
    (tryCatch type body handlers more).flatten ++ rest =
      .enter .tryBlock type :: (body.flatten ++
        (handlers.flatten ++ .endBlock :: (more.flatten ++ rest))) := by
  simp [flatten]

theorem try_delegate_append (type : BlockType) (body : Forms) (depth : Nat) (more : Forms)
    (rest : List Instruction) :
    (tryDelegate type body depth more).flatten ++ rest =
      .enter .tryBlock type :: (body.flatten ++ .delegate depth :: (more.flatten ++ rest)) := by
  simp [flatten]

variable {forms : Forms} {rest tail : List Instruction}

/-- No form begins with an instruction that ends an arm. -/
theorem eq_done_of_arm_ends {follow : List Instruction} (ends : ArmEnds rest)
    (same : forms.flatten ++ follow = rest) : forms = .done := by
  obtain ⟨instruction, more, rfl, ending⟩ := ends
  cases forms with
  | done => rfl
  | plain head isPlain others =>
      obtain ⟨rfl, -⟩ := List.cons.inj same
      simp [Instruction.isPlain, ending] at isPlain
  | region opener body others =>
      obtain ⟨rfl, -⟩ := List.cons.inj same
      cases opener <;> cases ending
  | ifThen | ifElse | tryCatch | tryDelegate =>
      obtain ⟨rfl, -⟩ := List.cons.inj same
      cases ending

variable (ends : ArmEnds rest)

include ends

theorem begins_plain {instruction : Instruction} (isPlain : instruction.isPlain = true)
    (same : forms.flatten ++ rest = instruction :: tail) :
    ∃ more, forms = .plain instruction isPlain more ∧ more.flatten ++ rest = tail := by
  cases forms with
  | done =>
      obtain ⟨_, _, rfl, ending⟩ := ends
      obtain ⟨rfl, -⟩ := List.cons.inj same
      simp [Instruction.isPlain, ending] at isPlain
  | plain head _ more =>
      obtain ⟨rfl, follow⟩ := List.cons.inj same
      exact ⟨more, rfl, follow⟩
  | region opener body more =>
      obtain ⟨rfl, -⟩ := List.cons.inj same
      cases opener <;> cases isPlain
  | ifThen | ifElse | tryCatch | tryDelegate =>
      obtain ⟨rfl, -⟩ := List.cons.inj same
      cases isPlain

theorem begins_region {opener : Opener}
    (same : forms.flatten ++ rest = opener.instruction :: tail) :
    ∃ body more, forms = .region opener body more ∧
      body.flatten ++ .endBlock :: (more.flatten ++ rest) = tail := by
  cases forms with
  | done =>
      obtain ⟨_, _, rfl, ending⟩ := ends
      obtain ⟨rfl, -⟩ := List.cons.inj same
      cases opener <;> cases ending
  | plain head isPlain more =>
      obtain ⟨rfl, -⟩ := List.cons.inj same
      cases opener <;> cases isPlain
  | region other body more =>
      rw [region_append] at same
      obtain ⟨head, follow⟩ := List.cons.inj same
      have equal : other = opener := by
        cases other <;> cases opener <;> cases head <;> rfl
      subst equal
      exact ⟨body, more, rfl, follow⟩
  | ifThen | ifElse | tryCatch | tryDelegate =>
      obtain ⟨head, -⟩ := List.cons.inj same
      cases opener <;> cases head

/-- An `if` has an `else` or none. -/
theorem begins_if {type : BlockType}
    (same : forms.flatten ++ rest = .enter .ifThen type :: tail) :
    ∃ arm more, (forms = .ifThen type arm more ∧
        arm.flatten ++ .endBlock :: (more.flatten ++ rest) = tail) ∨
      ∃ other, forms = .ifElse type arm other more ∧
        arm.flatten ++ .elseArm :: (other.flatten ++ .endBlock :: (more.flatten ++ rest)) =
          tail := by
  cases forms with
  | done =>
      obtain ⟨_, _, rfl, ending⟩ := ends
      obtain ⟨rfl, -⟩ := List.cons.inj same
      cases ending
  | plain head isPlain more =>
      obtain ⟨rfl, -⟩ := List.cons.inj same
      cases isPlain
  | region opener body more =>
      obtain ⟨head, -⟩ := List.cons.inj same
      cases opener <;> cases head
  | ifThen _ arm more =>
      rw [if_then_append] at same
      obtain ⟨⟨⟩, follow⟩ := List.cons.inj same
      exact ⟨arm, more, .inl ⟨rfl, follow⟩⟩
  | ifElse _ arm other more =>
      rw [if_else_append] at same
      obtain ⟨⟨⟩, follow⟩ := List.cons.inj same
      exact ⟨arm, more, .inr ⟨other, rfl, follow⟩⟩
  | tryCatch | tryDelegate =>
      obtain ⟨head, -⟩ := List.cons.inj same
      cases head

/-- A `try` has handlers and an `end`, or a `delegate` in their place. -/
theorem begins_try {type : BlockType}
    (same : forms.flatten ++ rest = .enter .tryBlock type :: tail) :
    ∃ body more, (∃ handlers, forms = .tryCatch type body handlers more ∧
        body.flatten ++ (handlers.flatten ++ .endBlock :: (more.flatten ++ rest)) = tail) ∨
      ∃ depth, forms = .tryDelegate type body depth more ∧
        body.flatten ++ .delegate depth :: (more.flatten ++ rest) = tail := by
  cases forms with
  | done =>
      obtain ⟨_, _, rfl, ending⟩ := ends
      obtain ⟨rfl, -⟩ := List.cons.inj same
      cases ending
  | plain head isPlain more =>
      obtain ⟨rfl, -⟩ := List.cons.inj same
      cases isPlain
  | region opener body more =>
      obtain ⟨head, -⟩ := List.cons.inj same
      cases opener <;> cases head
  | ifThen | ifElse =>
      obtain ⟨head, -⟩ := List.cons.inj same
      cases head
  | tryCatch _ body handlers more =>
      rw [try_catch_append] at same
      obtain ⟨⟨⟩, follow⟩ := List.cons.inj same
      exact ⟨body, more, .inl ⟨handlers, rfl, follow⟩⟩
  | tryDelegate _ body depth more =>
      rw [try_delegate_append] at same
      obtain ⟨⟨⟩, follow⟩ := List.cons.inj same
      exact ⟨body, more, .inr ⟨depth, rfl, follow⟩⟩

end Forms

end Forms

/-! ## One reading -/

mutual

/-- A structured sequence is determined by its instructions, even where it is not
known how far they reach. -/
theorem Forms.flatten_append_injective (first second : Forms) {rest others : List Instruction}
    (ends : ArmEnds rest) (othersEnd : ArmEnds others)
    (same : first.flatten ++ rest = second.flatten ++ others) :
    first = second ∧ rest = others := by
  cases first with
  | done =>
      obtain rfl := Forms.eq_done_of_arm_ends ends same.symm
      exact ⟨rfl, same⟩
  | plain instruction isPlain after =>
      obtain ⟨more, rfl, follow⟩ := Forms.begins_plain othersEnd isPlain same.symm
      obtain ⟨rfl, equal⟩ := Forms.flatten_append_injective after more ends othersEnd follow.symm
      exact ⟨rfl, equal⟩
  | region opener body after =>
      rw [Forms.region_append] at same
      obtain ⟨inside, more, rfl, follow⟩ := Forms.begins_region othersEnd same.symm
      obtain ⟨rfl, tail⟩ :=
        Forms.flatten_append_injective body inside (.cons rfl _) (.cons rfl _) follow.symm
      obtain ⟨rfl, equal⟩ :=
        Forms.flatten_append_injective after more ends othersEnd (List.cons.inj tail).2
      exact ⟨rfl, equal⟩
  | ifThen type arm after =>
      rw [Forms.if_then_append] at same
      obtain ⟨inside, more, ⟨rfl, follow⟩ | ⟨other, rfl, follow⟩⟩ :=
        Forms.begins_if othersEnd same.symm
      · obtain ⟨rfl, tail⟩ :=
          Forms.flatten_append_injective arm inside (.cons rfl _) (.cons rfl _) follow.symm
        obtain ⟨rfl, equal⟩ :=
          Forms.flatten_append_injective after more ends othersEnd (List.cons.inj tail).2
        exact ⟨rfl, equal⟩
      · obtain ⟨-, tail⟩ :=
          Forms.flatten_append_injective arm inside (.cons rfl _) (.cons rfl _) follow.symm
        cases tail
  | ifElse type arm other after =>
      rw [Forms.if_else_append] at same
      obtain ⟨inside, more, ⟨rfl, follow⟩ | ⟨second, rfl, follow⟩⟩ :=
        Forms.begins_if othersEnd same.symm
      · obtain ⟨-, tail⟩ :=
          Forms.flatten_append_injective arm inside (.cons rfl _) (.cons rfl _) follow.symm
        cases tail
      · obtain ⟨rfl, tail⟩ :=
          Forms.flatten_append_injective arm inside (.cons rfl _) (.cons rfl _) follow.symm
        obtain ⟨rfl, last⟩ := Forms.flatten_append_injective other second (.cons rfl _)
          (.cons rfl _) (List.cons.inj tail).2
        obtain ⟨rfl, equal⟩ :=
          Forms.flatten_append_injective after more ends othersEnd (List.cons.inj last).2
        exact ⟨rfl, equal⟩
  | tryCatch type body handlers after =>
      rw [Forms.try_catch_append] at same
      obtain ⟨inside, more, ⟨arms, rfl, follow⟩ | ⟨depth, rfl, follow⟩⟩ :=
        Forms.begins_try othersEnd same.symm
      · obtain ⟨rfl, tail⟩ := Forms.flatten_append_injective body inside (handlers.arm_ends _)
          (arms.arm_ends _) follow.symm
        obtain ⟨rfl, last⟩ := Handlers.flatten_append_injective handlers arms tail
        obtain ⟨rfl, equal⟩ := Forms.flatten_append_injective after more ends othersEnd last
        exact ⟨rfl, equal⟩
      · obtain ⟨-, tail⟩ := Forms.flatten_append_injective body inside (handlers.arm_ends _)
          (.cons rfl _) follow.symm
        exact absurd tail Handlers.ne_delegate
  | tryDelegate type body depth after =>
      rw [Forms.try_delegate_append] at same
      obtain ⟨inside, more, ⟨arms, rfl, follow⟩ | ⟨other, rfl, follow⟩⟩ :=
        Forms.begins_try othersEnd same.symm
      · obtain ⟨-, tail⟩ := Forms.flatten_append_injective body inside (.cons rfl _)
          (arms.arm_ends _) follow.symm
        exact absurd tail.symm Handlers.ne_delegate
      · obtain ⟨rfl, tail⟩ :=
          Forms.flatten_append_injective body inside (.cons rfl _) (.cons rfl _) follow.symm
        obtain ⟨⟨⟩, last⟩ := List.cons.inj tail
        obtain ⟨rfl, equal⟩ := Forms.flatten_append_injective after more ends othersEnd last
        exact ⟨rfl, equal⟩

theorem Handlers.flatten_append_injective (first second : Handlers)
    {rest others : List Instruction}
    (same : first.flatten ++ .endBlock :: rest = second.flatten ++ .endBlock :: others) :
    first = second ∧ rest = others := by
  cases first with
  | done =>
      cases second with
      | done => exact ⟨rfl, (List.cons.inj same).2⟩
      | handler head body more =>
          obtain ⟨head', -⟩ := List.cons.inj same
          cases head <;> cases head'
  | handler head body after =>
      cases second with
      | done =>
          obtain ⟨head', -⟩ := List.cons.inj same
          cases head <;> cases head'
      | handler other inside more =>
          rw [Handlers.handler_append, Handlers.handler_append] at same
          obtain ⟨begun, follow⟩ := List.cons.inj same
          have equal : head = other := by
            cases head <;> cases other <;> cases begun <;> rfl
          subst equal
          obtain ⟨rfl, tail⟩ := Forms.flatten_append_injective body inside (after.arm_ends _)
            (more.arm_ends _) follow
          obtain ⟨rfl, equal⟩ := Handlers.flatten_append_injective after more tail
          exact ⟨rfl, equal⟩

end

end WasmTyping
