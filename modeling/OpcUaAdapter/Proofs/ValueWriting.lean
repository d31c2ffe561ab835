import OpcUaAdapter.ValueAccess

/-! What a write of a value does to the process array. A value of the variable's shape is
taken whole or refused; one of the other shape passes both branches and empties the array. -/

namespace OpcUaAdapter

/-- The content of the process array for an element of a variant. A `Void` has none. -/
def ValueType.content : (type : ValueType) → type.UaContent → type.Content
  | .void, _ => ()
  | .int8, value | .uint8, value | .int16, value | .uint16, value | .int32, value | .uint32, value
  | .int64, value | .uint64, value | .float, value | .double, value | .string, value | .boolean, value => value

/-- The write was refused and changed nothing, or the array has the elements of the variant
and was written with them once. -/
def WriteKept {α β : Type} (content : β → α) (data : VariantOf β) (before : ProcessArray α)
    (result : UaStatusCode × ProcessArray α) : Prop :=
  result.1 ≠ .good ∧ result.2 = before ∨
    result.1 = .good ∧ result.2.accessChannel.length = before.accessChannel.length ∧
      result.2.accessChannel = data.elements.map content ∧
      result.2.writes = before.writes ++ [result.2.accessChannel]

/-- The variable refuses all writes, or the variant has its shape: a scalar for one element.
A `Void` refuses none, and has to get as many elements as it has. -/
def FitsVariable : (type : ValueType) → VariantOf type.UaContent → ProcessArray type.Content → Prop
  | .void, data, processArray =>
    processArray.isWriteable = true ∧ data.elements.length = processArray.accessChannel.length
  | _, data, processArray =>
    processArray.isWriteable = true → (data.isScalar = true ↔ processArray.accessChannel.length = 1)

section Writing

variable {α β : Type} {controlSystem : ControlSystem α}

private theorem VariantOf.length_of_isScalar {data : VariantOf β} (scalar : data.isScalar = true) :
    data.elements.length = 1 := by
  cases data with
  | scalar value => rfl
  | empty => cases scalar
  | array elements => cases scalar

/-- Both branches in one: a variant of the variable's shape is taken if it has its length. -/
theorem valueArray_fits {fromUa : β → α} {array : Bool} {data : VariantOf β} {size : Nat}
    (setUp : array = true ↔ size ≠ 1) (fits : data.isScalar = true ↔ size = 1) :
    valueArray fromUa array data size =
      if size = data.elements.length then some (data.elements.map fromUa) else none := by
  unfold valueArray
  cases scalar : data.isScalar with
  | true =>
    have single := fits.mp scalar
    have plain : array = false := by
      rw [← Bool.not_eq_true, setUp, not_not]
      exact single
    simp [plain, single, VariantOf.length_of_isScalar scalar]
  | false =>
    have many : size ≠ 1 := fun single => by rw [fits.mpr single] at scalar; cases scalar
    simp only [Bool.false_and, Bool.false_eq_true, if_false, Bool.not_false, Bool.true_and, setUp.mpr many, if_true,
      ne_eq, ite_not]

private theorem valueArray_other {fromUa : β → α} {array : Bool} {data : VariantOf β} {size : Nat}
    (setUp : array = true ↔ size ≠ 1) (other : ¬ (data.isScalar = true ↔ size = 1)) :
    valueArray fromUa array data size = some [] := by
  unfold valueArray
  cases scalar : data.isScalar with
  | true =>
    have many : size ≠ 1 := fun single => other (iff_of_true scalar single)
    simp [setUp.mpr many]
  | false =>
    have single : size = 1 := by
      by_contra many
      exact other (iff_of_false (by rw [scalar]; decide) many)
    have plain : array = false := by
      rw [← Bool.not_eq_true, setUp, not_not]
      exact single
    simp [plain]

private theorem setValueOf_kept_iff {fromUa : β → α} (keeps : ∀ channel, controlSystem.write channel = channel)
    {array : Bool} (data : VariantOf β) (processArray : ProcessArray α)
    (setUp : array = true ↔ processArray.accessChannel.length ≠ 1) :
    WriteKept fromUa data processArray (setValueOf fromUa controlSystem array data processArray) ↔
      (processArray.isWriteable = true → (data.isScalar = true ↔ processArray.accessChannel.length = 1)) := by
  unfold setValueOf WriteKept
  cases writeable : processArray.isWriteable with
  | false => simp
  | true =>
    by_cases fits : data.isScalar = true ↔ processArray.accessChannel.length = 1
    · refine iff_of_true ?_ fun _ => fits
      rw [valueArray_fits setUp fits]
      by_cases same : processArray.accessChannel.length = data.elements.length
      · rw [if_pos same]
        refine .inr ⟨rfl, ?_, keeps _, ?_⟩
        · simp [ProcessArray.write, keeps, same]
        · simp [ProcessArray.write, keeps]
      · rw [if_neg same]
        exact .inl ⟨by rintro ⟨⟩, rfl⟩
    · refine iff_of_false ?_ fun claimed => fits (claimed rfl)
      rw [valueArray_other setUp fits]
      rintro (⟨bad, -⟩ | ⟨-, length, elements, -⟩)
      · exact bad rfl
      · change (controlSystem.write []).length = processArray.accessChannel.length at length
        change controlSystem.write [] = data.elements.map fromUa at elements
        rw [keeps] at length elements
        -- an emptied array would have to be a variable of no elements and a variant of none
        apply fits
        constructor
        · intro scalar
          have := VariantOf.length_of_isScalar scalar
          rw [← List.length_map fromUa, ← elements] at this
          cases this
        · intro single
          rw [single] at length
          cases length

private theorem setValueVoid_kept_iff {controlSystem : ControlSystem Unit}
    (keeps : ∀ channel, controlSystem.write channel = channel) (data : VariantOf Bool)
    (processArray : ProcessArray Unit) :
    WriteKept (fun _ => ()) data processArray (setValueVoid controlSystem processArray) ↔
      processArray.isWriteable = true ∧ data.elements.length = processArray.accessChannel.length := by
  unfold setValueVoid WriteKept
  cases writeable : processArray.isWriteable with
  | false => simp
  | true =>
    have units : processArray.accessChannel = data.elements.map (fun _ => ()) ↔
        data.elements.length = processArray.accessChannel.length := by
      constructor
      · intro same
        rw [same, List.length_map]
      · intro same
        apply List.ext_getElem
        · rw [List.length_map, same]
        · intros
          rfl
    simp only [if_true, ProcessArray.write, keeps, units, ne_eq, not_true, false_and, false_or, true_and, and_true]

end Writing

theorem typeSpecificSetup_array {type : ValueType} (content : type ≠ .void) (processArray : ProcessArray type.Content) :
    (typeSpecificSetup type processArray).1 = true ↔ processArray.accessChannel.length ≠ 1 := by
  have branches : ((if processArray.accessChannel.length = 1 then (false, 0)
      else (true, processArray.accessChannel.length)) : Bool × Nat).1 = true ↔ processArray.accessChannel.length ≠ 1 := by
    split
    next single => simp [single]
    next many => simp [many]
  cases type with
  | void => exact absurd rfl content
  | int8 | uint8 | int16 | uint16 | int32 | uint32 | int64 | uint64 | float | double | string | boolean => exact branches

/-- A write is refused or taken whole exactly when it is refused for being one, or comes in
the shape of the variable. -/
theorem write_kept_iff (type : ValueType) {controlSystem : ControlSystem type.Content}
    (keeps : ∀ channel, controlSystem.write channel = channel) (data : VariantOf type.UaContent)
    (processArray : ProcessArray type.Content) :
    WriteKept type.content data processArray
        (setValue type controlSystem (typeSpecificSetup type processArray).1 data processArray) ↔
      FitsVariable type data processArray := by
  cases type with
  | void => exact setValueVoid_kept_iff keeps data processArray
  | int8 | uint8 | int16 | uint16 | int32 | uint32 | int64 | uint64 | float | double | string | boolean =>
    exact setValueOf_kept_iff keeps data processArray (typeSpecificSetup_array (by decide) processArray)

def plainControlSystem (α : Type) : ControlSystem α := ⟨id, id⟩

theorem write_kept_of_scalar :
    WriteKept id (.scalar (7 : Int32)) ⟨false, true, [1], []⟩
      (setValue .int32 (plainControlSystem Int32) false (.scalar 7) ⟨false, true, [1], []⟩) :=
  (write_kept_iff .int32 (fun _ => rfl) (.scalar 7) ⟨false, true, [1], []⟩).mpr fun _ => iff_of_true rfl rfl

/-- An array for a scalar variable: the answer is good and the variable is empty. -/
theorem array_empties_scalar :
    (setValue .int32 (plainControlSystem Int32) (typeSpecificSetup .int32 ⟨false, true, [1], []⟩).1 (.array [5, 6])
        ⟨false, true, [1], []⟩) = (.good, ⟨false, true, [], [[]]⟩) ∧
      ¬ ∀ (data : VariantOf Int32) (processArray : ProcessArray Int32),
        WriteKept id data processArray (setValue .int32 (plainControlSystem Int32)
          (typeSpecificSetup .int32 processArray).1 data processArray) := by
  refine ⟨rfl, fun claimed => ?_⟩
  rcases claimed (.array [5, 6]) ⟨false, true, [1], []⟩ with ⟨bad, -⟩ | ⟨-, length, -⟩
  · exact bad rfl
  · cases length

end OpcUaAdapter
