import Mathlib.Data.List.Nodup
import WasmTyping.FuncType

/-!
# Types can be read back from their text

The text of a type holds neither a comma nor a closing bracket, and does not begin like the
ellipsis. So in the text of a list every entry ends where a separator or the bracket
follows, and both the entries and the mark of omitted ones are determined by the text. A
list also ends at its bracket whatever comes after it, so the two lists of a function type
can be told apart.
-/

set_option autoImplicit false

namespace WasmTyping

/-! ## Decimal numbers -/

/-- A number ends where a character follows that is not a digit. -/
theorem digits_append_injective {first second : Nat} {stop : Char} {left right : List Char}
    (stops : stop.isDigit = false)
    (same : Nat.toDigits 10 first ++ stop :: left = Nat.toDigits 10 second ++ stop :: right) :
    first = second := by
  have read (number : Nat) (rest : List Char) :
      (Nat.toDigits 10 number ++ stop :: rest).takeWhile Char.isDigit =
        Nat.toDigits 10 number := by
    have digits : ∀ char ∈ Nat.toDigits 10 number, char.isDigit = true :=
      fun char member => Nat.isDigit_of_mem_toDigits (by decide) (by decide) member
    rw [List.takeWhile_append_of_pos digits, List.takeWhile_cons_of_neg (by simp [stops]),
      List.append_nil]
  have equal : Nat.toDigits 10 first = Nat.toDigits 10 second := by
    rw [← read first left, ← read second right, same]
  calc first = Nat.ofDigitChars 10 (Nat.toDigits 10 first) 0 :=
      Nat.ofDigitChars_ten_toDigits.symm
    _ = Nat.ofDigitChars 10 (Nat.toDigits 10 second) 0 := by rw [equal]
    _ = second := Nat.ofDigitChars_ten_toDigits

/-- A number does not begin with another character than a digit. -/
theorem digits_append_ne {number : Nat} {char : Char} {rest tail : List Char}
    (other : char.isDigit = false) : Nat.toDigits 10 number ++ rest ≠ char :: tail := by
  obtain ⟨first, more, split⟩ := List.exists_cons_of_ne_nil (@Nat.toDigits_ne_nil number 10)
  have digit : first.isDigit = true :=
    Nat.isDigit_of_mem_toDigits (by decide) (by decide) (split ▸ List.mem_cons_self)
  rw [split]
  intro same
  rw [(List.cons.inj same).1, other] at digit
  cases digit

namespace ValueType

/-! ## One type -/

theorem ref_text (index : Nat) (nullable : Bool) :
    (ref index nullable).text.toList =
      (if nullable then "(ref null " else "(ref ").toList ++ (Nat.toDigits 10 index ++ [')']) := by
  cases nullable <;> simp [text, Nat.toList_repr]

/-- Whether a character can stand in the text of a type. -/
def mayHold (char : Char) : Bool :=
  char != ',' && char != ']'

theorem may_hold_of_digit {char : Char} (digit : char.isDigit = true) : mayHold char = true := by
  simp only [mayHold, Bool.and_eq_true, bne_iff_ne]
  constructor
  · rintro rfl
    cases digit
  · rintro rfl
    cases digit

theorem text_holds (type : ValueType) : ∀ char ∈ type.text.toList, mayHold char = true := by
  apply List.all_eq_true.mp
  cases type with
  | num type => cases type <;> decide
  | funcref nullable => cases nullable <;> decide
  | externref nullable => cases nullable <;> decide
  | exnref => decide
  | ref index nullable =>
      have digits : (Nat.toDigits 10 index).all mayHold = true := by
        rw [List.all_eq_true]
        intro char member
        exact may_hold_of_digit (Nat.isDigit_of_mem_toDigits (by decide) (by decide) member)
      have begins : (if nullable then "(ref null " else "(ref ").toList.all mayHold = true := by
        cases nullable <;> decide
      rw [ref_text, List.all_append, List.all_append, begins, digits]
      rfl
  | any => decide

/-- A type begins neither like the ellipsis nor with the closing bracket. -/
theorem text_begins (type : ValueType) :
    ∃ head tail, type.text.toList = head :: tail ∧ head ≠ '.' ∧ mayHold head = true := by
  cases type with
  | num type => cases type <;> exact ⟨_, _, rfl, by decide, by decide⟩
  | funcref nullable => cases nullable <;> exact ⟨_, _, rfl, by decide, by decide⟩
  | externref nullable => cases nullable <;> exact ⟨_, _, rfl, by decide, by decide⟩
  | exnref => exact ⟨_, _, rfl, by decide, by decide⟩
  | ref index nullable =>
      rw [ref_text]
      cases nullable <;> exact ⟨_, _, rfl, by decide, by decide⟩
  | any => exact ⟨_, _, rfl, by decide, by decide⟩

/-- A type with an index is told from the others by what its index begins with. -/
theorem eq_of_ref_text {index : Nat} {nullable : Bool} {type : ValueType}
    (same : (ref index nullable).text.toList = type.text.toList) :
    ref index nullable = type := by
  rw [ref_text] at same
  cases type with
  | num type => cases nullable <;> cases type <;> simp [text, NumType.text] at same
  | funcref other =>
      cases nullable <;> cases other <;> simp [text] at same
      exact absurd same (digits_append_ne rfl)
  | externref other =>
      cases nullable <;> cases other <;> simp [text] at same
      exact absurd same (digits_append_ne rfl)
  | exnref => cases nullable <;> simp [text] at same
  | ref other marked =>
      rw [ref_text] at same
      cases nullable <;> cases marked
      · have numbers := List.append_cancel_left same
        rw [digits_append_injective rfl numbers]
      · have begun : Nat.toDigits 10 index ++ [')'] =
            'n' :: ("ull ".toList ++ (Nat.toDigits 10 other ++ [')'])) := by simpa using same
        exact absurd begun (digits_append_ne rfl)
      · have begun : Nat.toDigits 10 other ++ [')'] =
            'n' :: ("ull ".toList ++ (Nat.toDigits 10 index ++ [')'])) := by
          simpa using same.symm
        exact absurd begun (digits_append_ne rfl)
      · have numbers := List.append_cancel_left same
        rw [digits_append_injective rfl numbers]
  | any => cases nullable <;> simp [text] at same

/-- The types without an index. -/
def indexless : List ValueType :=
  [i32, i64, f32, f64, v128, funcref true, funcref false, externref true, externref false, exnref,
    any]

theorem mem_indexless (type : ValueType) :
    type ∈ indexless ∨ ∃ index nullable, type = ref index nullable := by
  cases type with
  | num type => cases type <;> exact .inl (by decide)
  | funcref nullable => cases nullable <;> exact .inl (by decide)
  | externref nullable => cases nullable <;> exact .inl (by decide)
  | exnref => exact .inl (by decide)
  | ref index nullable => exact .inr ⟨index, nullable, rfl⟩
  | any => exact .inl (by decide)

theorem text_injective {first second : ValueType} (same : first.text = second.text) :
    first = second := by
  have letters := congrArg String.toList same
  rcases first.mem_indexless with firstListed | ⟨index, nullable, rfl⟩
  · rcases second.mem_indexless with secondListed | ⟨index, nullable, rfl⟩
    · have distinct : (indexless.map text).Nodup := by decide
      exact List.inj_on_of_nodup_map distinct firstListed secondListed same
    · exact (eq_of_ref_text letters.symm).symm
  · exact eq_of_ref_text letters

/-! ## Lists of types -/

/-- What follows an entry of a list: the closing bracket or the next entry. -/
def tailText : List ValueType → List Char
  | [] => [']']
  | type :: rest => ',' :: ' ' :: (type.text.toList ++ tailText rest)

/-- A list after its opening bracket and the mark of omitted entries. -/
def entriesText : List ValueType → List Char
  | [] => [']']
  | type :: rest => type.text.toList ++ tailText rest

theorem list_text_eq (types : List ValueType) (truncated : Bool) :
    (listText types truncated).toList =
      '[' :: ((if truncated then "... " else "").toList ++ entriesText types) := by
  have entries : (", ".intercalate (types.map text)).toList ++ [']'] = entriesText types := by
    cases types with
    | nil => simp [entriesText]
    | cons type rest =>
        rw [entriesText]
        induction rest generalizing type with
        | nil => simp [tailText]
        | cons next rest ih =>
            have later := ih next
            simp only [List.map_cons] at later ⊢
            rw [String.intercalate_cons_cons, String.toList_append, String.toList_append,
              List.append_assoc, later, tailText]
            simp
  rw [← entries]
  simp [listText]

theorem tail_text_stops (types : List ValueType) (following : List Char) :
    ∃ stop rest, tailText types ++ following = stop :: rest ∧ mayHold stop = false := by
  cases types with
  | nil => exact ⟨_, _, rfl, rfl⟩
  | cons type rest => exact ⟨_, _, rfl, rfl⟩

/-- An entry ends where the first character follows that no type holds. -/
theorem text_append_injective {first second : ValueType} {rest others : List ValueType}
    {left right : List Char}
    (same : first.text.toList ++ (tailText rest ++ left) =
      second.text.toList ++ (tailText others ++ right)) :
    first = second ∧ tailText rest ++ left = tailText others ++ right := by
  have read (type : ValueType) (more : List ValueType) (following : List Char) :
      (type.text.toList ++ (tailText more ++ following)).takeWhile mayHold =
        type.text.toList := by
    obtain ⟨stop, remaining, split, stops⟩ := tail_text_stops more following
    rw [split, List.takeWhile_append_of_pos type.text_holds,
      List.takeWhile_cons_of_neg (by simp [stops]), List.append_nil]
  have letters : first.text.toList = second.text.toList := by
    rw [← read first rest left, ← read second others right, same]
  rw [letters] at same
  exact ⟨text_injective (String.toList_inj.mp letters), List.append_cancel_left same⟩

theorem tail_text_append_injective {first second : List ValueType} {left right : List Char}
    (same : tailText first ++ left = tailText second ++ right) :
    first = second ∧ left = right := by
  induction first generalizing second with
  | nil =>
      cases second with
      | nil => exact ⟨rfl, (List.cons.inj same).2⟩
      | cons type rest => simp [tailText] at same
  | cons type rest ih =>
      cases second with
      | nil => simp [tailText] at same
      | cons other others =>
          simp only [tailText, List.cons_append, List.append_assoc, List.cons.injEq,
            true_and] at same
          obtain ⟨rfl, tails⟩ := text_append_injective same
          obtain ⟨rfl, following⟩ := ih tails
          exact ⟨rfl, following⟩

/-- An entry is not taken for the bracket that closes an empty list. -/
theorem entries_text_cons_ne (type : ValueType) (rest : List ValueType)
    (left right : List Char) : entriesText (type :: rest) ++ left ≠ ']' :: right := by
  obtain ⟨head, tail, begins, -, holds⟩ := type.text_begins
  rw [entriesText, begins]
  intro same
  rw [(List.cons.inj same).1] at holds
  cases holds

theorem entries_text_append_injective {first second : List ValueType} {left right : List Char}
    (same : entriesText first ++ left = entriesText second ++ right) :
    first = second ∧ left = right := by
  cases first with
  | nil =>
      cases second with
      | nil => exact ⟨rfl, (List.cons.inj same).2⟩
      | cons type rest => exact absurd same.symm (entries_text_cons_ne type rest _ _)
  | cons type rest =>
      cases second with
      | nil => exact absurd same (entries_text_cons_ne type rest _ _)
      | cons other others =>
          rw [entriesText, entriesText, List.append_assoc, List.append_assoc] at same
          obtain ⟨rfl, tails⟩ := text_append_injective same
          obtain ⟨rfl, following⟩ := tail_text_append_injective tails
          exact ⟨rfl, following⟩

/-- No list begins like the ellipsis. -/
theorem entries_text_ne_ellipsis (types : List ValueType) (following tail : List Char) :
    entriesText types ++ following ≠ '.' :: tail := by
  intro same
  cases types with
  | nil => simp [entriesText] at same
  | cons type rest =>
      obtain ⟨head, more, begins, other, -⟩ := type.text_begins
      rw [entriesText, begins] at same
      exact other (List.cons.inj same).1

/-- The text of a list determines its entries, whether some were left out, and where it
ends. -/
theorem list_text_append_injective {first second : List ValueType} {marked other : Bool}
    {left right : List Char}
    (same : (listText first marked).toList ++ left = (listText second other).toList ++ right) :
    first = second ∧ marked = other ∧ left = right := by
  rw [list_text_eq, list_text_eq, List.cons_append, List.cons_append, List.append_assoc,
    List.append_assoc] at same
  have tails := (List.cons.inj same).2
  cases marked <;> cases other
  · obtain ⟨rfl, following⟩ := entries_text_append_injective tails
    exact ⟨rfl, rfl, following⟩
  · exact absurd tails (entries_text_ne_ellipsis first left _)
  · exact absurd tails.symm (entries_text_ne_ellipsis second right _)
  · obtain ⟨rfl, following⟩ := entries_text_append_injective (List.append_cancel_left tails)
    exact ⟨rfl, rfl, following⟩

theorem list_text_injective {first second : List ValueType} {marked other : Bool}
    (same : listText first marked = listText second other) :
    first = second ∧ marked = other := by
  have letters : (listText first marked).toList ++ [] = (listText second other).toList ++ [] := by
    rw [same]
  obtain ⟨entries, marks, -⟩ := list_text_append_injective letters
  exact ⟨entries, marks⟩

theorem full_text_injective {first second : List ValueType}
    (same : fullText first = fullText second) : first = second :=
  (list_text_injective same).1

end ValueType

/-! ## Function types -/

/-- The parameters end at their closing bracket, so the arrow is not taken for a type. -/
theorem FuncType.text_injective {first second : FuncType} (same : first.text = second.text) :
    first = second := by
  have letters := congrArg String.toList same
  simp only [text, ValueType.fullText, String.toList_append, List.append_assoc] at letters
  obtain ⟨params, -, arrows⟩ := ValueType.list_text_append_injective letters
  have results := String.toList_inj.mp (List.append_cancel_left arrows)
  obtain ⟨firstParams, firstResults⟩ := first
  obtain ⟨secondParams, secondResults⟩ := second
  cases params
  cases ValueType.full_text_injective results
  rfl

/-- Two lists with or without the mark of omitted entries have the same text only if they
are the same and marked alike, and no two types nor two function types have the same
text. -/
theorem texts_are_unambiguous (types others : List ValueType) (truncated marked : Bool) :
    (ValueType.listText types truncated = ValueType.listText others marked ↔
      types = others ∧ truncated = marked) ∧
    Function.Injective ValueType.text ∧ Function.Injective FuncType.text := by
  refine ⟨⟨ValueType.list_text_injective, ?_⟩, ?_, ?_⟩
  · rintro ⟨rfl, rfl⟩
    rfl
  · intro first second same
    exact ValueType.text_injective same
  · intro first second same
    exact FuncType.text_injective same

end WasmTyping
