import OpcUaAdapter.Text

/-! The address space of the OPC UA server as the adapter fills it: nodes, references and
the server calls that add, read and browse them. Which requests a server grants is a
parameter. -/

namespace OpcUaAdapter

/-- Numeric node ids, and strings in the namespace of the adapter. -/
inductive NodeId where
  | numeric (namespaceIndex identifier : Nat)
  | string (identifier : Text)
deriving DecidableEq

def NodeId.null : NodeId := .numeric 0 0

def NodeId.isNull (nodeId : NodeId) : Bool := nodeId = .null

def objectsFolder : NodeId := .numeric 0 85
def folderType : NodeId := .numeric 0 61
def baseDataVariableType : NodeId := .numeric 0 63
def ctkModule : NodeId := .numeric 2 1002
def ctkVariable : NodeId := .numeric 2 1001
def ctkAdditionalVariable : NodeId := .numeric 2 1005

inductive NodeClass where
  | object
  | variable
  | method
  | objectType
  | variableType
  | referenceType
  | dataType
  | view
deriving DecidableEq

/-- The references the adapter asks for and browses, and all others. -/
inductive ReferenceType where
  | organizes
  | hasComponent
  | hasTypeDefinition
  | other (nodeId : NodeId)
deriving DecidableEq

structure UaNode where
  nodeId : NodeId
  nodeClass : NodeClass
  browseName : Text
  displayName : Text
  description : Text := []
  /-- What a read of the value gives, where it is a string the adapter depends on. -/
  value : Option Text := none
deriving DecidableEq

structure UaReference where
  source : NodeId
  referenceType : ReferenceType
  target : NodeId
deriving DecidableEq

structure AddressSpace where
  nodes : List UaNode := []
  references : List UaReference := []

/-- Which nodes, below which parent, and which references the server adds. -/
structure UaServer where
  addsNode : AddressSpace → UaNode → NodeId → Bool
  addsReference : AddressSpace → UaReference → Bool

namespace AddressSpace

/-- After `csa_namespace_init`, as far as it is in the namespace of the adapter. -/
def initial : AddressSpace :=
  { nodes := [
      { nodeId := objectsFolder, nodeClass := .object, browseName := "Objects", displayName := "Objects" },
      { nodeId := .string "LoggingLevels", nodeClass := .dataType
        browseName := "LoggingLevels", displayName := "LoggingLevels" },
      { nodeId := .string "EnumStrings", nodeClass := .variable
        browseName := "EnumStrings", displayName := "EnumStrings" }] }

variable (space : AddressSpace)

def find? (nodeId : NodeId) : Option UaNode := space.nodes.find? (·.nodeId = nodeId)

/-- `UA_Server_readNodeId` finds the node. -/
def hasNode (nodeId : NodeId) : Bool := (space.find? nodeId).isSome

/-- `UA_Server_readDataType` is good, so the node has this attribute. -/
def hasDataType (nodeId : NodeId) : Bool :=
  match space.find? nodeId with
  | some node => node.nodeClass = .variable
  | none => false

/-- The common part of `UA_Server_addObjectNode`, `addVariableNode` and `addMethodNode`:
the new node id, null when the server refuses. -/
def addNode (server : UaServer) (node : UaNode) (parent : NodeId) (referenceType : ReferenceType)
    (typeDefinition : Option NodeId) : NodeId × AddressSpace :=
  if server.addsNode space node parent then
    (node.nodeId,
      { nodes := space.nodes ++ [node]
        references := space.references ++ ⟨parent, referenceType, node.nodeId⟩ ::
          (typeDefinition.map fun target => ⟨node.nodeId, .hasTypeDefinition, target⟩).toList })
  else (.null, space)

def addReference (server : UaServer) (reference : UaReference) : AddressSpace :=
  if server.addsReference space reference then { space with references := space.references ++ [reference] }
  else space

def update (nodeId : NodeId) (change : UaNode → UaNode) : AddressSpace :=
  { space with nodes := space.nodes.map fun node => if node.nodeId = nodeId then change node else node }

def writeDisplayName (nodeId : NodeId) (displayName : Text) : AddressSpace :=
  space.update nodeId fun node => { node with displayName }

def writeDescription (nodeId : NodeId) (description : Text) : AddressSpace :=
  space.update nodeId fun node => { node with description }

/-- The nodes a forward browse finds, in the order of their references. -/
def browseForward (source : NodeId) (referenceType : ReferenceType) (nodeClasses : List NodeClass) : List UaNode :=
  (space.references.filter fun reference =>
      reference.source = source && reference.referenceType = referenceType).filterMap fun reference =>
    (space.find? reference.target).filter fun node => node.nodeClass ∈ nodeClasses

/-- A browse in the other direction finds the nodes that refer to the given one. -/
def browseInverse (target : NodeId) (referenceType : ReferenceType) (nodeClasses : List NodeClass) : List UaNode :=
  (space.references.filter fun reference =>
      reference.target = target && reference.referenceType = referenceType).filterMap fun reference =>
    (space.find? reference.source).filter fun node => node.nodeClass ∈ nodeClasses

/-- Whether a browse for the type definition of the node finds the folder type. -/
def isFolder (nodeId : NodeId) : Bool := ⟨nodeId, .hasTypeDefinition, folderType⟩ ∈ space.references

end AddressSpace

/-- A server that refuses an id that is in use. -/
def unusedServer : UaServer where
  addsNode space node _ := !space.hasNode node.nodeId
  addsReference _ _ := true

end OpcUaAdapter
