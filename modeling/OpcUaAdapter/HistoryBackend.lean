import OpcUaAdapter.InfluxClient
import OpcUaAdapter.UaValue

/-! The functions the OPC UA server calls to store history. The client is any state with
the member functions the backend uses, so a theorem can range over every behaviour of it. -/

namespace OpcUaAdapter

universe u

/-- The member functions of `InfluxClient` that `serverSetHistoryDataInflux` calls. The
error text of a failed write only goes to the log. -/
structure HistoryClient (σ : Type u) where
  hasFundamentalError : σ → Bool
  addExtraTags : σ → Bool
  writePoint : PendingWritePoint → σ → Bool × σ

/-- An `InfluxClient` with write batching, between two steps of its worker. -/
def batchingClient : HistoryClient InfluxClient where
  hasFundamentalError client := client.hasFundamentalError
  addExtraTags client := client.config.addNameTags
  writePoint point client :=
    match client.writePoint point (some []) [] with
    | some sent => (sent.ok, sent.client)
    | none => (false, client)

structure InfluxHistoryBackendContext where
  hasClient : Bool := true
  influxFieldName : Text
  nodeIdTagName : Text
  engineeringUnit : Text
  host : Text
  applicationName : Text
  port : UInt16

/-- A node id, by the text `UA_NodeId_print` makes of it. -/
structure UaNodeId where
  printed : Option Text

structure UaDataValue where
  hasValue : Bool
  value : UaVariant
  sourceTimestamp : Option Int := none
  serverTimestamp : Option Int := none

inductive UaStatusCode where
  | good
  | badInternalError
  | badCommunicationError
  | badTypeMismatch
  | badInvalidArgument
  | badContinuationPointInvalid
  | badOutOfMemory
  | badNotWritable
  | badIndexRangeNoData
deriving DecidableEq

def nodeIdToString (nodeId : UaNodeId) : Text :=
  match nodeId.printed with
  | none => "unknown-node"
  | some encoded => if encoded.isEmpty then "unknown-node" else encoded

def commonTags (ctx : InfluxHistoryBackendContext) (addExtraTags : Bool) (nodeId : UaNodeId) : List TagInformation :=
  [⟨ctx.nodeIdTagName, nodeIdToString nodeId, []⟩, ⟨"host", ctx.host, []⟩, ⟨"application", ctx.applicationName, []⟩,
      ⟨"port", intText ctx.port.toNat, []⟩] ++
    (if ctx.engineeringUnit.isEmpty then [] else [⟨"unit", ctx.engineeringUnit, []⟩]) ++
    if addExtraTags then [⟨"name", ctx.influxFieldName, []⟩] else []

def valueTimestamp (value : UaDataValue) (now : Int) : Int :=
  uaDateTimeToUnixNanoseconds ((value.sourceTimestamp.or value.serverTimestamp).getD now)

/-- The result of storing a value, with the points that were handed to the client. -/
structure Stored (σ : Type u) where
  status : UaStatusCode
  client : σ
  handed : List PendingWritePoint := []

section Write
variable {σ : Type u} (member : HistoryClient σ)

def writeIndexed (point : FieldValue → List TagInformation → PendingWritePoint) (tags : List TagInformation) :
    Nat → List FieldValue → σ → Stored σ
  | _, [], client => { status := .good, client }
  | i, fieldValue :: rest, client =>
    let written := point fieldValue (tags ++ [⟨"index", intText i, []⟩])
    let (ok, after) := member.writePoint written client
    if ok then
      let stored := writeIndexed point tags (i + 1) rest after
      { stored with handed := written :: stored.handed }
    else { status := .badInternalError, client := after, handed := [written] }

def writeValues (point : FieldValue → List TagInformation → PendingWritePoint) (tags : List TagInformation)
    (fieldValues : List FieldValue) (client : σ) : Stored σ :=
  match fieldValues with
  | [fieldValue] =>
    let written := point fieldValue tags
    let (ok, after) := member.writePoint written client
    { status := if ok then .good else .badInternalError, client := after, handed := [written] }
  | _ => writeIndexed member point tags 0 fieldValues client

/-- `none` stands for a null pointer, `now` is the answer of `UA_DateTime_now`. -/
def serverSetHistoryDataInflux (hdbContext : Option InfluxHistoryBackendContext) (nodeId : Option UaNodeId)
    (historizing : Bool) (value : Option UaDataValue) (now : Int) (client : σ) : Stored σ :=
  match hdbContext, nodeId, value with
  | some ctx, some nodeId, some value =>
    if !historizing || !value.hasValue then { status := .good, client }
    else if !ctx.hasClient then { status := .badInternalError, client }
    else if member.hasFundamentalError client then { status := .badCommunicationError, client }
    else match variantToStrings value.value with
      | none => { status := .badTypeMismatch, client }
      | some fieldValues =>
        writeValues member
          (fun fieldValue tags => ⟨ctx.influxFieldName, fieldValue, tags, some (valueTimestamp value now)⟩)
          (commonTags ctx (member.addExtraTags client) nodeId) fieldValues client
  | _, _, _ => { status := .good, client }

end Write
end OpcUaAdapter
