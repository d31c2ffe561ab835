import OpcUaAdapter.MapFile

/-! The choice of the process variables that are mapped implicitly, as the constructor
of the adapter makes it from the exclude entries of the map file. -/

namespace OpcUaAdapter

inductive ValueType where
  | int8
  | uint8
  | int16
  | uint16
  | int32
  | uint32
  | int64
  | uint64
  | float
  | double
  | string
  | boolean
  | void
deriving DecidableEq

structure ProcessVariable where
  name : Text
  valueType : ValueType
  isWriteable : Bool
  /-- The length of its only channel. -/
  size : Nat := 1
  description : Text := []
deriving DecidableEq

/-- One round of the loop over the exclude list, for one process variable. -/
def skipVar (mappedPvSources folderWithHistory : List Text) (name : Text) (skip : Bool) (e : Text) : Bool :=
  if rfind "/*" e = sizeMinus e.length 2 then
    if rfind (e.take (e.length - 1)) name = some 0 then
      let pvUsed := mappedPvSources.any fun ele => ele = name.drop 1
      let pvUsed := pvUsed || folderWithHistory.any fun folder => name.take folder.length = folder
      if !pvUsed then true else skip
    else skip
  else if rfind "*" e = sizeMinus e.length 1 then
    -- `rfind` from position 0 on finds nothing behind the start
    if (e.take (e.length - 1)).isPrefixOf name then
      let pvUsed := mappedPvSources.any fun ele => ele = name.drop 1
      let pvUsed := pvUsed || folderWithHistory.any fun folder => (name.drop 1).take (folder.length - 1) = folder
      if !pvUsed then true else skip
    else skip
  else if name = e then
    let skip := if mappedPvSources.contains (e.drop 1) then skip else true
    if folderWithHistory.any fun folder => (name.drop 1).take (folder.length - 1) = folder then false else skip
  else skip

/-- The loop over the process variables: the flag, the names given to
`implicitVarMapping` in order, and the unused variables. -/
structure MappingLoop where
  skip : Bool := false
  implicitlyMapped : List Text := []
  unusedVariables : List Text := []

/-- A `Void` variable that cannot be mapped to a method. -/
def ProcessVariable.unusableVoid (oneProcessVariable : ProcessVariable) : Bool :=
  oneProcessVariable.valueType = .void && (!oneProcessVariable.isWriteable || 1 < oneProcessVariable.size)

def MappingLoop.next (mapFile : MapFile) (loop : MappingLoop) (oneProcessVariable : ProcessVariable) : MappingLoop :=
  if oneProcessVariable.unusableVoid then loop
  else
    let skip := mapFile.exclude.foldl
      (skipVar mapFile.getAllMappedPvSourceNames mapFile.folderWithHistory oneProcessVariable.name) loop.skip
    if !skip then { loop with skip, implicitlyMapped := loop.implicitlyMapped ++ [oneProcessVariable.name] }
    else { loop with skip := false, unusedVariables := loop.unusedVariables.insert oneProcessVariable.name }

def mappingLoop (mapFile : MapFile) (allProcessVariables : List ProcessVariable) : MappingLoop :=
  allProcessVariables.foldl (MappingLoop.next mapFile) {}

end OpcUaAdapter
