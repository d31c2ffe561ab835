import OpcUaAdapter.UaAdapter

/-! The table of the nodes with a history, as it is set up when the server starts: from
the assignments to variables and to folders, less the nodes with several settings and
those whose setting is not defined. -/

namespace OpcUaAdapter

structure AdapterHistorySetup where
  name : Text
  bufferLength : Nat := 100
  entriesPerResponse : Nat := 100
  interval : Nat := 1000
deriving DecidableEq

/-- A reference as an iteration over the references of a node meets it. -/
structure ChildReference where
  childId : NodeId
  isInverse : Bool
  referenceTypeId : ReferenceType
deriving DecidableEq

namespace AddressSpace

variable (space : AddressSpace)

/-- The references of a node in both directions. -/
def childReferences (nodeId : NodeId) : List ChildReference :=
  (space.references.filter fun reference => reference.source = nodeId).map
      (fun reference => ⟨reference.target, false, reference.referenceType⟩) ++
    (space.references.filter fun reference => reference.target = nodeId).map
      fun reference => ⟨reference.source, true, reference.referenceType⟩

/-- `UA_Server_readNodeClass` gives the class of variables. -/
def isVariable (nodeId : NodeId) : Bool :=
  match space.find? nodeId with
  | some node => node.nodeClass = .variable
  | none => false

end AddressSpace

/-- The calls of `UA_Server_forEachChildNodeCall` for a node: one for each of its
references, in an order that is up to the server, and none for a node that is not there. -/
structure ChildNodeCalls (space : AddressSpace) where
  calls : NodeId → List ChildReference
  complete : ∀ nodeId reference,
    reference ∈ calls nodeId ↔ space.hasNode nodeId = true ∧ reference ∈ space.childReferences nodeId

/-- The vectors `historizing_nodes` and `historizing_setup`. -/
structure HistorizingTable where
  historizingNodes : List NodeId := []
  historizingSetup : List Text := []
deriving DecidableEq

namespace HistorizingTable

def insert (table : HistorizingTable) (nodeId : NodeId) (setup : Text) : HistorizingTable :=
  ⟨table.historizingNodes ++ [nodeId], table.historizingSetup ++ [setup]⟩

def erase (table : HistorizingTable) (position : Nat) : HistorizingTable :=
  ⟨table.historizingNodes.eraseIdx position, table.historizingSetup.eraseIdx position⟩

end HistorizingTable

section Collecting

variable (space : AddressSpace) (forEach : ChildNodeCalls space)

/-- The fuel is the depth of the recursion, `none` when it does not come back from there. -/
def getChildVariables (history : Text) : Nat → HistorizingTable → ChildReference → Option HistorizingTable
  | 0, _, _ => none
  | fuel + 1, table, reference =>
    if reference.isInverse then some table
    else do
      let table ←
        if reference.referenceTypeId = .organizes then
          (forEach.calls reference.childId).foldlM (getChildVariables history fuel) table
        else some table
      return if space.isVariable reference.childId then table.insert reference.childId history else table

def addFolderHistorizing (fuel : Nat) (historyfolders : List AdapterFolderHistorySetup) (table : HistorizingTable) :
    Option HistorizingTable :=
  historyfolders.foldlM (fun table folder =>
    if space.hasNode folder.folderId then
      (forEach.calls folder.folderId).foldlM (getChildVariables space forEach folder.folderHistorizing fuel) table
    else some table) table

def addVariableHistorizing (historyvariables : List AdapterPVHistorySetup) (table : HistorizingTable) :
    HistorizingTable :=
  historyvariables.foldl (fun table histVar =>
    if space.hasNode histVar.variableId then table.insert histVar.variableId histVar.variableHistorizing
    else table) table

end Collecting

namespace HistorizingTable

variable (table : HistorizingTable)

/-- The first position behind another one with the same node. -/
def duplicateOf (position : Nat) : Option Nat :=
  (List.range table.historizingNodes.length).find? fun j =>
    position < j && table.historizingNodes[j]? = table.historizingNodes[position]?

theorem duplicateOf_spec {table : HistorizingTable} {position j : Nat} (found : table.duplicateOf position = some j) :
    position < j ∧ j < table.historizingNodes.length ∧
      table.historizingNodes[j]? = table.historizingNodes[position]? := by
  have holds := List.find?_some found
  have inside := List.mem_range.mp (List.mem_of_find?_eq_some found)
  simp only [Bool.and_eq_true, decide_eq_true_eq] at holds
  exact ⟨holds.1, inside, holds.2⟩

theorem length_erase_lt {table : HistorizingTable} {position : Nat} (inside : position < table.historizingNodes.length) :
    (table.erase position).historizingNodes.length < table.historizingNodes.length := by
  simp only [erase, List.length_eraseIdx_of_lt inside]
  omega

/-- The loop over the positions in `check_historizing_nodes`: the flag `repeat` and the
table. The inner loop ends at the first duplicate, the outer one goes on. -/
def checkPositions (position : Nat) (table : HistorizingTable) : Bool × HistorizingTable :=
  if position < table.historizingNodes.length then
    match found : table.duplicateOf position with
    | some j => (true, (checkPositions (position + 1) (table.erase j)).2)
    | none => checkPositions (position + 1) table
  else (false, table)
termination_by table.historizingNodes.length - position
decreasing_by
  · have := length_erase_lt (duplicateOf_spec found).2.1
    omega
  · omega

theorem length_checkPositions (position : Nat) (table : HistorizingTable) :
    (checkPositions position table).2.historizingNodes.length ≤ table.historizingNodes.length ∧
      ((checkPositions position table).1 = true →
        (checkPositions position table).2.historizingNodes.length < table.historizingNodes.length) := by
  fun_induction checkPositions position table with
  | case1 position table inside j found ih =>
    have shorter := ih.1.trans_lt (length_erase_lt (duplicateOf_spec found).2.1)
    exact ⟨shorter.le, fun _ => shorter⟩
  | case2 position table inside found ih => exact ih
  | case3 position table outside => exact ⟨le_refl _, by rintro ⟨⟩⟩

/-- `check_historizing_nodes`: the positions are gone through until nothing is erased. -/
def checkHistorizingNodes (table : HistorizingTable) : HistorizingTable :=
  if _again : (checkPositions 0 table).1 then checkHistorizingNodes (checkPositions 0 table).2
  else (checkPositions 0 table).2
termination_by table.historizingNodes.length
decreasing_by exact (length_checkPositions 0 table).2 _again

/-- The first position from one on whose setup is not defined. -/
def incompleteFrom (history : List AdapterHistorySetup) (position : Nat) : Option Nat :=
  (List.range table.historizingNodes.length).find? fun i =>
    position ≤ i && !history.any fun j => table.historizingSetup[i]? = some j.name

theorem incompleteFrom_lt {table : HistorizingTable} {history : List AdapterHistorySetup} {position i : Nat}
    (found : table.incompleteFrom history position = some i) : i < table.historizingNodes.length :=
  List.mem_range.mp (List.mem_of_find?_eq_some found)

/-- `remove_nodes_with_incomplete_historizing_setup`, from its remembered position on. -/
def removeIncompleteFrom (history : List AdapterHistorySetup) (position : Nat) (table : HistorizingTable) :
    HistorizingTable :=
  match _found : table.incompleteFrom history position with
  | some i => removeIncompleteFrom history i (table.erase i)
  | none => table
termination_by table.historizingNodes.length
decreasing_by exact length_erase_lt (incompleteFrom_lt _found)

def removeNodesWithIncompleteHistorizingSetup (history : List AdapterHistorySetup) : HistorizingTable → HistorizingTable :=
  removeIncompleteFrom history 0

end HistorizingTable

/-- The vectors `add_historizing_nodes` registers, `none` when a folder's recursion does not come back. -/
def addHistorizingNodes (space : AddressSpace) (forEach : ChildNodeCalls space) (fuel : Nat)
    (historyvariables : List AdapterPVHistorySetup) (historyfolders : List AdapterFolderHistorySetup)
    (history : List AdapterHistorySetup) : Option HistorizingTable := do
  let table := addVariableHistorizing space historyvariables {}
  let table ← addFolderHistorizing space forEach fuel historyfolders table
  return (table.checkHistorizingNodes).removeNodesWithIncompleteHistorizingSetup history

end OpcUaAdapter
