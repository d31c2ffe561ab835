import OpcUaAdapter.HistoryBackend
import OpcUaAdapter.ImplicitMapping

/-! Reading and writing the value of a process variable through its OPC UA node: the
specialisations of `getValue` and `setValue`, and the set-up that tells scalars from
arrays. What the control system does with a process array and the functions of open62541
that fill a variant are parameters. -/

namespace OpcUaAdapter

/-- A `UA_Variant`. Its data are read as values of a type, whatever its type pointer says. -/
inductive VariantOf (β : Type) where
  | empty
  | scalar (value : β)
  | array (elements : List β)
deriving DecidableEq

namespace VariantOf

variable {β : Type}

def isScalar : VariantOf β → Bool
  | .scalar _ => true
  | .empty => false
  | .array _ => false

def elements : VariantOf β → List β
  | .empty => []
  | .scalar value => [value]
  | .array elements => elements

end VariantOf

structure NumericRangeDimension where
  min : Nat
  max : Nat
deriving DecidableEq

abbrev NumericRange := List NumericRangeDimension

/-- What a process array of the control system holds in its channel. -/
abbrev ValueType.Content : ValueType → Type
  | .int8 => Int8
  | .uint8 => UInt8
  | .int16 => Int16
  | .uint16 => UInt16
  | .int32 => Int32
  | .uint32 => UInt32
  | .int64 => Int64
  | .uint64 => UInt64
  | .float => UInt32
  | .double => UInt64
  | .string => Text
  | .boolean => Bool
  | .void => Unit

/-- What a variant for the process variable holds. A string is the bytes of a `UA_String`. -/
abbrev ValueType.UaContent : ValueType → Type
  | .void => Bool
  | .int8 => Int8
  | .uint8 => UInt8
  | .int16 => Int16
  | .uint16 => UInt16
  | .int32 => Int32
  | .uint32 => UInt32
  | .int64 => Int64
  | .uint64 => UInt64
  | .float => UInt32
  | .double => UInt64
  | .string => Text
  | .boolean => Bool

/-- A process array with one channel, and the contents it was written with. -/
structure ProcessArray (α : Type) where
  isReadable : Bool
  isWriteable : Bool
  accessChannel : List α
  writes : List (List α) := []

/-- What the channel holds after `readLatest` and after `write`. -/
structure ControlSystem (α : Type) where
  readLatest : List α → List α
  write : List α → List α

structure VariantFunctions (β : Type) where
  setScalarCopy : β → UaStatusCode × VariantOf β
  setArrayCopy : List β → UaStatusCode × VariantOf β
  copyRange : List β → NumericRange → UaStatusCode × VariantOf β

section Access

variable {α β : Type}

def ProcessArray.readLatest (controlSystem : ControlSystem α) (processArray : ProcessArray α) : ProcessArray α :=
  { processArray with accessChannel := controlSystem.readLatest processArray.accessChannel }

def ProcessArray.write (controlSystem : ControlSystem α) (processArray : ProcessArray α) : ProcessArray α :=
  { processArray with
    accessChannel := controlSystem.write processArray.accessChannel
    writes := processArray.writes ++ [processArray.accessChannel] }

/-- The common part of `getValue<T>` and `getValue<string>`. -/
def getValueOf (toUa : α → β) (controlSystem : ControlSystem α) (functions : VariantFunctions β)
    (range : Option NumericRange) (processArray : ProcessArray α) : (UaStatusCode × VariantOf β) × ProcessArray α :=
  let latest := if processArray.isReadable then processArray.readLatest controlSystem else processArray
  match latest.accessChannel with
  | [value] => (functions.setScalarCopy (toUa value), latest)
  | values =>
    match range with
    | some range => (functions.copyRange (values.map toUa) range, latest)
    | none => (functions.setArrayCopy (values.map toUa), latest)

/-- The `valueArray` of `setValue`, `none` where the lengths differ. It stays empty when
the variant and the variable are not of the same shape. -/
def valueArray (fromUa : β → α) (array : Bool) (data : VariantOf β) (size : Nat) : Option (List α) :=
  if data.isScalar && !array then some (data.elements.map fromUa)
  else if !data.isScalar && array then
    if size ≠ data.elements.length then none else some (data.elements.map fromUa)
  else some []

/-- The common part of `setValue<T>` and `setValue<string>`. -/
def setValueOf (fromUa : β → α) (controlSystem : ControlSystem α) (array : Bool) (data : VariantOf β)
    (processArray : ProcessArray α) : UaStatusCode × ProcessArray α :=
  if processArray.isWriteable then
    match valueArray fromUa array data processArray.accessChannel.length with
    | none => (.badInvalidArgument, processArray)
    | some values => (.good, { processArray with accessChannel := values }.write controlSystem)
  else (.badNotWritable, processArray)

def getValueNumber : ControlSystem α → VariantFunctions α → Option NumericRange → ProcessArray α →
    (UaStatusCode × VariantOf α) × ProcessArray α := getValueOf id

def setValueNumber : ControlSystem α → Bool → VariantOf α → ProcessArray α → UaStatusCode × ProcessArray α :=
  setValueOf id

/-- The value goes out by `UA_String_fromChars` of its C string. -/
def getValueString : ControlSystem Text → VariantFunctions Text → Option NumericRange → ProcessArray Text →
    (UaStatusCode × VariantOf Text) × ProcessArray Text := getValueOf cStr

/-- `UASTRING_TO_CPPSTRING` copies as many bytes as the `UA_String` is long, also a NUL. -/
def uaStringToCppString (value : Text) : Text := value

def setValueString : ControlSystem Text → Bool → VariantOf Text → ProcessArray Text →
    UaStatusCode × ProcessArray Text := setValueOf uaStringToCppString

def getValueVoid (functions : VariantFunctions Bool) (processArray : ProcessArray Unit) :
    (UaStatusCode × VariantOf Bool) × ProcessArray Unit := (functions.setScalarCopy false, processArray)

def setValueVoid (controlSystem : ControlSystem Unit) (processArray : ProcessArray Unit) :
    UaStatusCode × ProcessArray Unit :=
  if processArray.isWriteable then (.good, processArray.write controlSystem) else (.good, processArray)

end Access

/-- The member `array` and the array dimensions of a process variable. -/
def typeSpecificSetup : (type : ValueType) → ProcessArray type.Content → Bool × Nat
  | .void, _ => (false, 0)
  | _, processArray =>
    if processArray.accessChannel.length = 1 then (false, 0) else (true, processArray.accessChannel.length)

def getValue : (type : ValueType) → ControlSystem type.Content → VariantFunctions type.UaContent →
    Option NumericRange → ProcessArray type.Content → (UaStatusCode × VariantOf type.UaContent) × ProcessArray type.Content
  | .string => getValueString
  | .void => fun _ functions _ => getValueVoid functions
  | .int8 | .uint8 | .int16 | .uint16 | .int32 | .uint32 | .int64 | .uint64 | .float | .double | .boolean =>
    getValueNumber

def setValue : (type : ValueType) → ControlSystem type.Content → Bool → VariantOf type.UaContent →
    ProcessArray type.Content → UaStatusCode × ProcessArray type.Content
  | .string => setValueString
  | .void => fun controlSystem _ _ => setValueVoid controlSystem
  | .int8 | .uint8 | .int16 | .uint16 | .int32 | .uint32 | .int64 | .uint64 | .float | .double | .boolean =>
    setValueNumber

end OpcUaAdapter
