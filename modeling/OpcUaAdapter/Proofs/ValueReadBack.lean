import OpcUaAdapter.Proofs.ValueWriting

/-! Reading a value back after it was written. Numbers come back as they were; a string
comes back as a C string, and a range on a scalar is not looked at. -/

namespace OpcUaAdapter

/-- What a dimension selects of a sequence, cut at its end; `none` when it begins behind it. -/
def NumericRangeDimension.part {γ : Type} (dimension : NumericRangeDimension) (list : List γ) : Option (List γ) :=
  if dimension.min ≤ dimension.max ∧ dimension.min < list.length then
    some ((list.take (dimension.max + 1)).drop dimension.min)
  else none

/-- A part of one element. Only strings have parts. -/
def ValueType.substring : (type : ValueType) → NumericRangeDimension → type.UaContent → Option type.UaContent
  | .string, dimension, value => dimension.part value
  | _, _, _ => none

/-- The slice of a value, `none` for a range that is not valid for it. A further dimension
selects inside the elements. -/
def VariantOf.slice {β : Type} (substring : NumericRangeDimension → β → Option β) :
    VariantOf β → NumericRange → Option (VariantOf β)
  | .scalar value, [inner] => (substring inner value).map .scalar
  | .array elements, [dimension] => (dimension.part elements).map .array
  | .array elements, [dimension, inner] =>
    ((dimension.part elements).bind fun part => part.mapM (substring inner)).map .array
  | _, _ => none

def VariantOf.selected {β : Type} (substring : NumericRangeDimension → β → Option β) (data : VariantOf β) :
    Option NumericRange → Option (VariantOf β)
  | none => some data
  | some range => data.slice substring range

/-- The functions of open62541 copy the values, and of an array the slice of a valid range. -/
structure CopiesValues {β : Type} (substring : NumericRangeDimension → β → Option β)
    (functions : VariantFunctions β) : Prop where
  scalar : ∀ value, functions.setScalarCopy value = (.good, .scalar value)
  array : ∀ elements, functions.setArrayCopy elements = (.good, .array elements)
  range : ∀ elements range slice, (VariantOf.array elements).slice substring range = some slice →
    functions.copyRange elements range = (.good, slice)
  invalid : ∀ elements range, (VariantOf.array elements).slice substring range = none →
    (functions.copyRange elements range).1 ≠ .good

/-- What a read gives of a value that was written, with what both ways make of an element.
A range on a scalar is not looked at. -/
def VariantOf.readAgain {β : Type} (substring : NumericRangeDimension → β → Option β) (change : β → β)
    (range : Option NumericRange) : VariantOf β → Option (VariantOf β)
  | .scalar value => some (.scalar (change value))
  | .array elements => (VariantOf.array (elements.map change)).selected substring range
  | .empty => (VariantOf.array []).selected substring range

/-- No string that is read has a NUL before the end of what is read of it. A range on a
scalar has to select just what stands before its first NUL. -/
def StringReadsBack : VariantOf Text → Option NumericRange → Prop
  | data, none => ∀ value ∈ data.elements, '\x00' ∉ value
  | .scalar value, some [inner] => inner.part value = some (cStr value)
  | .array elements, some [dimension] =>
    ∀ part, dimension.part elements = some part → ∀ value ∈ part, '\x00' ∉ value
  | .array elements, some [dimension, inner] =>
    ∀ part, dimension.part elements = some part → ∀ value ∈ part, '\x00' ∉ value.take (inner.max + 1)
  | _, some _ => True

def ReadsBack : (type : ValueType) → VariantOf type.UaContent → Option NumericRange → Prop
  | .string, data, range => StringReadsBack data range
  | _, _, _ => True

section CStrings

private theorem nul_not_mem_cStr (value : Text) : '\x00' ∉ cStr value := by
  intro member
  simpa using List.mem_takeWhile_imp member

private theorem NumericRangeDimension.part_eq_some_iff {γ : Type} {dimension : NumericRangeDimension} {list part : List γ} :
    dimension.part list = some part ↔ (dimension.min ≤ dimension.max ∧ dimension.min < list.length) ∧
      (list.take (dimension.max + 1)).drop dimension.min = part := by
  unfold NumericRangeDimension.part
  split
  next valid => simp [valid]
  next invalid => simp [invalid]

private theorem NumericRangeDimension.part_map {γ δ : Type} (dimension : NumericRangeDimension) (change : γ → δ)
    (list : List γ) : dimension.part (list.map change) = (dimension.part list).map (List.map change) := by
  unfold part
  rw [List.length_map]
  split
  · simp [List.map_take, List.map_drop]
  · rfl

theorem part_cStr_iff {inner : NumericRangeDimension} {value part : Text} (selected : inner.part value = some part) :
    inner.part (cStr value) = some part ↔ '\x00' ∉ value.take (inner.max + 1) := by
  obtain ⟨⟨ordered, inside⟩, rfl⟩ := NumericRangeDimension.part_eq_some_iff.mp selected
  have start : cStr value <+: value := List.takeWhile_prefix _
  have taken : (cStr value).take (inner.max + 1) <+: value.take (inner.max + 1) :=
    List.prefix_take_iff.mpr ⟨(List.take_prefix _ _).trans start, List.length_take_le _ _⟩
  constructor
  · intro same
    obtain ⟨⟨-, within⟩, equal⟩ := NumericRangeDimension.part_eq_some_iff.mp same
    have lengths := congrArg List.length equal
    simp only [List.length_drop, List.length_take] at lengths
    have whole : (cStr value).take (inner.max + 1) = value.take (inner.max + 1) := by
      apply taken.eq_of_length
      rw [List.length_take, List.length_take]
      omega
    rw [← whole]
    exact fun member => nul_not_mem_cStr value (List.mem_of_mem_take member)
  · intro plain
    have split : cStr value = value.take (inner.max + 1) ++ cStr (value.drop (inner.max + 1)) := by
      conv => lhs; rw [← List.take_append_drop (inner.max + 1) value]
      apply List.takeWhile_append_of_pos
      intro c member
      have other : c ≠ '\x00' := by
        rintro rfl
        exact plain member
      simpa using other
    have long : (value.take (inner.max + 1)).length ≤ (cStr value).length := by
      rw [split, List.length_append]
      exact Nat.le_add_right _ _
    have whole : (cStr value).take (inner.max + 1) = value.take (inner.max + 1) := by
      apply taken.eq_of_length
      have := start.length_le
      rw [List.length_take] at long
      rw [List.length_take, List.length_take]
      omega
    rw [List.length_take] at long
    exact NumericRangeDimension.part_eq_some_iff.mpr ⟨⟨ordered, by omega⟩, by rw [whole]⟩

private theorem mapM_part_cStr_iff {inner : NumericRangeDimension} {values parts : List Text}
    (selected : values.mapM inner.part = some parts) :
    (values.map cStr).mapM inner.part = some parts ↔ ∀ value ∈ values, '\x00' ∉ value.take (inner.max + 1) := by
  induction values generalizing parts with
  | nil => simpa using selected
  | cons value values ih =>
    rw [List.mapM_cons] at selected
    obtain ⟨part, first, selected⟩ := Option.bind_eq_some_iff.mp selected
    obtain ⟨rest, others, same⟩ := Option.bind_eq_some_iff.mp selected
    cases same
    rw [List.map_cons, List.mapM_cons, List.forall_mem_cons, ← part_cStr_iff first, ← ih others]
    constructor
    · intro read
      obtain ⟨_, here, read⟩ := Option.bind_eq_some_iff.mp read
      obtain ⟨_, there, same⟩ := Option.bind_eq_some_iff.mp read
      cases same
      exact ⟨here, there⟩
    · rintro ⟨here, there⟩
      rw [here, there]
      rfl

end CStrings

section Access

variable {α β : Type} {controlSystem : ControlSystem α} {functions : VariantFunctions β}
  {substring : NumericRangeDimension → β → Option β}

theorem setValueOf_accepted {fromUa : β → α} (keeps : ∀ channel, controlSystem.write channel = channel)
    {array : Bool} {data : VariantOf β} {processArray : ProcessArray α}
    (setUp : array = true ↔ processArray.accessChannel.length ≠ 1)
    (shape : data.isScalar = true ↔ processArray.accessChannel.length = 1)
    (accepted : (setValueOf fromUa controlSystem array data processArray).1 = .good) :
    (setValueOf fromUa controlSystem array data processArray).2.accessChannel = data.elements.map fromUa ∧
      (setValueOf fromUa controlSystem array data processArray).2.isReadable = processArray.isReadable ∧
      processArray.accessChannel.length = data.elements.length := by
  unfold setValueOf at accepted ⊢
  cases writeable : processArray.isWriteable with
  | false =>
    rw [writeable] at accepted
    cases accepted
  | true =>
    rw [writeable, valueArray_fits setUp shape] at accepted
    rw [valueArray_fits setUp shape]
    by_cases same : processArray.accessChannel.length = data.elements.length
    · rw [if_pos same]
      exact ⟨keeps _, rfl, same⟩
    · rw [if_neg same] at accepted
      cases accepted

private theorem getValueOf_scalar (copies : CopiesValues substring functions) {toUa : α → β} {range : Option NumericRange}
    {processArray : ProcessArray α} (hidden : processArray.isReadable = false) {value : α}
    (channel : processArray.accessChannel = [value]) :
    (getValueOf toUa controlSystem functions range processArray).1 = (.good, .scalar (toUa value)) := by
  unfold getValueOf
  rw [hidden]
  simp [channel, copies.scalar]

private theorem getValueOf_array (copies : CopiesValues substring functions) {toUa : α → β} {range : Option NumericRange}
    {processArray : ProcessArray α} (hidden : processArray.isReadable = false)
    (many : processArray.accessChannel.length ≠ 1) {expected : VariantOf β} :
    (getValueOf toUa controlSystem functions range processArray).1 = (.good, expected) ↔
      (VariantOf.array (processArray.accessChannel.map toUa)).selected substring range = some expected := by
  unfold getValueOf
  rw [hidden]
  simp only [Bool.false_eq_true, if_false]
  split
  next value channel => simp [channel] at many
  next =>
    cases range with
    | none => simp [copies.array, VariantOf.selected]
    | some range =>
      simp only [VariantOf.selected]
      cases sliced : (VariantOf.array (processArray.accessChannel.map toUa)).slice substring range with
      | some slice => simp [copies.range _ _ _ sliced]
      | none =>
        have bad := copies.invalid _ _ sliced
        refine iff_of_false (fun same => bad ?_) (by simp)
        rw [same]

theorem read_after_write (copies : CopiesValues substring functions) {fromUa : β → α} {toUa : α → β}
    (keeps : ∀ channel, controlSystem.write channel = channel) {array : Bool} {data : VariantOf β}
    {processArray : ProcessArray α} (hidden : processArray.isReadable = false)
    (setUp : array = true ↔ processArray.accessChannel.length ≠ 1)
    (shape : data.isScalar = true ↔ processArray.accessChannel.length = 1)
    (accepted : (setValueOf fromUa controlSystem array data processArray).1 = .good)
    (range : Option NumericRange) (expected : VariantOf β) :
    (getValueOf toUa controlSystem functions range
        (setValueOf fromUa controlSystem array data processArray).2).1 = (.good, expected) ↔
      data.readAgain substring (toUa ∘ fromUa) range = some expected := by
  obtain ⟨channel, readable, length⟩ := setValueOf_accepted keeps setUp shape accepted
  rw [hidden] at readable
  cases data with
  | scalar value =>
    rw [getValueOf_scalar copies readable channel]
    simp [VariantOf.readAgain]
  | array elements =>
    have many : processArray.accessChannel.length ≠ 1 := fun single => by cases shape.mpr single
    rw [getValueOf_array copies readable (by rw [channel, List.length_map, ← length]; exact many), channel,
      List.map_map]
    rfl
  | empty =>
    have many : ([] : List α).length ≠ 1 := by simp
    rw [getValueOf_array copies readable (by rw [channel]; exact many), channel]
    rfl

end Access

private theorem numbers_read_back {α : Type} {substring : NumericRangeDimension → α → Option α}
    (whole : ∀ dimension value, substring dimension value = none) {data : VariantOf α} (given : data ≠ .empty)
    {range : Option NumericRange} {expected : VariantOf α} (valid : data.selected substring range = some expected) :
    data.readAgain substring (id ∘ id) range = some expected := by
  cases data with
  | empty => exact absurd rfl given
  | array elements => simpa [VariantOf.readAgain] using valid
  | scalar value =>
    cases range with
    | none => exact valid
    | some range =>
      -- no range is valid for a scalar without parts
      match range, valid with
      | [inner], valid => simp [VariantOf.selected, VariantOf.slice, whole] at valid

private theorem strings_read_back_iff {data : VariantOf Text} (given : data ≠ .empty) {range : Option NumericRange}
    {expected : VariantOf Text} (valid : data.selected NumericRangeDimension.part range = some expected) :
    data.readAgain NumericRangeDimension.part (cStr ∘ uaStringToCppString) range = some expected ↔
      StringReadsBack data range := by
  have plain (elements : List Text) : elements.map cStr = elements ↔ ∀ value ∈ elements, '\x00' ∉ value := by
    simp only [← cStr_eq_self_iff]
    simpa using @List.map_inj_left _ _ elements cStr id
  have change : cStr ∘ uaStringToCppString = cStr := rfl
  rw [change]
  cases data with
  | empty => exact absurd rfl given
  | scalar value =>
    cases range with
    | none =>
      cases valid
      simp [VariantOf.readAgain, StringReadsBack, VariantOf.elements, cStr_eq_self_iff]
    | some range =>
      match range, valid with
      | [inner], valid =>
        simp only [VariantOf.selected, VariantOf.slice, Option.map_eq_some_iff] at valid
        obtain ⟨part, selected, rfl⟩ := valid
        simp [VariantOf.readAgain, StringReadsBack, selected, eq_comm]
  | array elements =>
    cases range with
    | none =>
      cases valid
      simp only [VariantOf.readAgain, VariantOf.selected, Option.some.injEq, VariantOf.array.injEq, StringReadsBack,
        VariantOf.elements]
      exact plain elements
    | some range =>
      match range, valid with
      | [dimension], valid =>
        simp only [VariantOf.selected, VariantOf.slice, Option.map_eq_some_iff] at valid
        obtain ⟨part, selected, rfl⟩ := valid
        simp only [VariantOf.readAgain, VariantOf.selected, VariantOf.slice, NumericRangeDimension.part_map, selected,
          Option.map_some, Option.some.injEq, VariantOf.array.injEq, StringReadsBack, forall_eq']
        exact plain part
      | [dimension, inner], valid =>
        simp only [VariantOf.selected, VariantOf.slice, Option.map_eq_some_iff, Option.bind_eq_some_iff] at valid
        obtain ⟨parts, ⟨part, selected, inside⟩, rfl⟩ := valid
        simp only [VariantOf.readAgain, VariantOf.selected, VariantOf.slice, NumericRangeDimension.part_map, selected,
          Option.map_some, Option.bind_some, StringReadsBack, Option.some.injEq, forall_eq']
        rw [← mapM_part_cStr_iff inside]
        simp

/-- What is written and read back, whole or a slice of it, is what was written, but for
strings with a NUL in what is read, and for ranges on a scalar string. -/
theorem written_value_read_back_iff {type : ValueType} (content : type ≠ .void)
    {controlSystem : ControlSystem type.Content} (keeps : ∀ channel, controlSystem.write channel = channel)
    {functions : VariantFunctions type.UaContent} (copies : CopiesValues type.substring functions)
    {processArray : ProcessArray type.Content} (hidden : processArray.isReadable = false)
    {data : VariantOf type.UaContent} (given : data ≠ .empty)
    (shape : data.isScalar = true ↔ processArray.accessChannel.length = 1)
    (accepted : (setValue type controlSystem (typeSpecificSetup type processArray).1 data processArray).1 = .good)
    {range : Option NumericRange} {expected : VariantOf type.UaContent}
    (valid : data.selected type.substring range = some expected) :
    (getValue type controlSystem functions range
        (setValue type controlSystem (typeSpecificSetup type processArray).1 data processArray).2).1 =
      (.good, expected) ↔ ReadsBack type data range := by
  have setUp := typeSpecificSetup_array content processArray
  cases type with
  | void => exact absurd rfl content
  | string =>
    exact (read_after_write copies keeps hidden setUp shape accepted range expected).trans
      (strings_read_back_iff given valid)
  | int8 | uint8 | int16 | uint16 | int32 | uint32 | int64 | uint64 | float | double | boolean =>
    exact (read_after_write copies keeps hidden setUp shape accepted range expected).trans
      (iff_of_true (numbers_read_back (fun _ _ => rfl) given valid) trivial)

def copyingFunctions {β : Type} (substring : NumericRangeDimension → β → Option β) : VariantFunctions β where
  setScalarCopy value := (.good, .scalar value)
  setArrayCopy elements := (.good, .array elements)
  copyRange elements range :=
    match (VariantOf.array elements).slice substring range with
    | some slice => (.good, slice)
    | none => (.badIndexRangeNoData, .empty)

private theorem copyingFunctions_copies {β : Type} (substring : NumericRangeDimension → β → Option β) :
    CopiesValues substring (copyingFunctions substring) where
  scalar _ := rfl
  array _ := rfl
  range elements range slice sliced := by simp [copyingFunctions, sliced]
  invalid elements range sliced := by simp [copyingFunctions, sliced]

/-- The second and third of three strings. -/
theorem written_value_read_back_of_strings :
    (getValue .string (plainControlSystem Text) (copyingFunctions (ValueType.substring .string)) (some [⟨1, 2⟩])
        (setValue .string (plainControlSystem Text) true (.array ["a", "bc", "d"])
          ⟨false, true, ["", "", ""], []⟩).2).1 = (.good, .array ["bc", "d"]) := by
  have plain : ReadsBack .string (.array ["a", "bc", "d"]) (some [⟨1, 2⟩]) := by
    intro part selected
    cases selected
    decide
  exact (@written_value_read_back_iff .string (by decide) (plainControlSystem Text) (fun _ => rfl) _
    (copyingFunctions_copies _) ⟨false, true, ["", "", ""], []⟩ rfl (.array ["a", "bc", "d"]) (by decide) (by decide)
    rfl (some [⟨1, 2⟩]) (.array ["bc", "d"]) rfl).mpr plain

/-- A string with a NUL in it comes back as what stands before the NUL. -/
theorem string_with_nul_cut :
    ¬ ∀ (data : VariantOf Text) (processArray : ProcessArray Text), processArray.isReadable = false →
      data ≠ .empty → (data.isScalar = true ↔ processArray.accessChannel.length = 1) →
      (setValue .string (plainControlSystem Text) (typeSpecificSetup .string processArray).1 data processArray).1 = .good →
      (getValue .string (plainControlSystem Text) (copyingFunctions (ValueType.substring .string)) none
        (setValue .string (plainControlSystem Text) (typeSpecificSetup .string processArray).1 data processArray).2).1 =
          (.good, data) := by
  intro claimed
  have same := claimed (.scalar "a\x00b") ⟨false, true, [""], []⟩ rfl (by decide) (by decide) rfl
  have cut : VariantOf.scalar ("a" : Text) = .scalar "a\x00b" := congrArg Prod.snd same
  simp at cut

end OpcUaAdapter
