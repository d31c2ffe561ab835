import OpcUaAdapter.HistoryBackend
import OpcUaAdapter.Numeral

/-! The function the OPC UA server calls to read history: the query for a node, the
page of the records that a continuation point asks for, and the values made of them. -/

namespace OpcUaAdapter

universe u

/-- `dataIsNull` tells a null `data` pointer, which the server may combine with any length. -/
structure UaByteString where
  bytes : List UInt8
  dataIsNull : Bool := false
deriving DecidableEq

/-- What `memcpy` copies from and to a `size_t`, lowest byte first. -/
def sizeBytes (offset : Nat) : List UInt8 := (List.range 8).map fun i => UInt8.ofNat (offset / 256 ^ i)

def bytesSize (bytes : List UInt8) : Nat := bytes.foldr (fun byte rest => byte.toNat + 256 * rest) 0

def parseContinuationPointOffset : Option UaByteString → Except UaStatusCode Nat
  | none => .ok 0
  | some continuationPoint =>
    if continuationPoint.bytes.length = 0 then .ok 0
    else if continuationPoint.bytes.length ≠ 8 || continuationPoint.dataIsNull then
      .error .badContinuationPointInvalid
    else .ok (bytesSize continuationPoint.bytes)

def unixNanosecondsToUaDateTime (value : Int) : Int :=
  if value ≤ 0 then unixEpoch else unixEpoch + value.tdiv 100

def parseNumberValue (value : Text) : Option UInt64 :=
  let trimmed := trim value
  if trimmed.isEmpty then none
  else match strtod (cStr trimmed) with
    | none => none
    | some (outValue, rest) => if (rest.dropWhile isspace).isEmpty then some outValue else none

def recordVariant (value : Text) : UaVariant :=
  match parseNumberValue value with
  | some numericValue => .scalar .double numericValue
  | none => .scalar .string (cStr value)

def recordDataValue (record : InfluxRecord) : UaDataValue :=
  { hasValue := true
    value := recordVariant record.value
    sourceTimestamp := some (unixNanosecondsToUaDateTime record.timestampNanoseconds)
    serverTimestamp := some (unixNanosecondsToUaDateTime record.timestampNanoseconds) }

/-- The answer of `readRangeUnixNanoseconds`. -/
structure HistoryAnswer (σ : Type u) where
  records : Except StdException (List InfluxRecord)
  readError : Text := []
  client : σ

/-- The member function of `InfluxClient` that `getHistoryDataInflux` calls. -/
structure HistoryReader (σ : Type u) where
  read : HistoryRead → σ → HistoryAnswer σ

/-- An `InfluxClient` whose requests meet the given exchange. -/
def influxReader (calendar : Calendar) (exchange : Exchange) : HistoryReader InfluxClient where
  read query client :=
    let result := client.read calendar query (some []) exchange
    { records := result.records, readError := result.error.getD [], client := result.client }

/-- The arguments of a read. `stop` is the argument `end`. -/
structure HistoryCall where
  start : Int
  stop : Int
  nodeId : Option UaNodeId
  maxSizePerResponse : Nat := 0
  numValuesPerNode : Nat := 0
  releaseContinuationPoints : Bool := false
  continuationPoint : Option UaByteString := none
  hasOutContinuationPoint : Bool := true
  hasResult : Bool := true

/-- What the calls of `UA_DateTime_now` and of the allocation functions answer. -/
structure UaEnvironment where
  now : Int
  later : Int
  arrayAllocated : Bool := true
  pointAllocated : Bool := true

/-- What the call leaves in `result` and `outContinuationPoint`, and the indices at
which it has read the vector of records. -/
structure HistoryPage where
  status : UaStatusCode
  dataValues : List UaDataValue := []
  outContinuationPoint : Option UaByteString := none
  accessed : List Nat := []

def readTagsOf (ctx : InfluxHistoryBackendContext) (nodeId : UaNodeId) : List TagInformation :=
  [⟨ctx.nodeIdTagName, nodeIdToString nodeId, []⟩, ⟨"host", ctx.host, []⟩, ⟨"application", ctx.applicationName, []⟩,
    ⟨"port", intText ctx.port.toNat, []⟩]

def HistoryCall.reverse (call : HistoryCall) : Bool :=
  call.stop ≠ longMin && call.start ≠ longMin && call.stop < call.start

/-- The bounds of the query in nanoseconds. -/
def HistoryCall.window (call : HistoryCall) (environment : UaEnvironment) : Int × Int :=
  let (startNanoseconds, endNanoseconds) :=
    if call.start = longMin ∧ call.stop = longMin then (0, uaDateTimeToUnixNanoseconds environment.now)
    else if call.start = longMin then (0, uaDateTimeToUnixNanoseconds call.stop)
    else if call.stop = longMin then
      (uaDateTimeToUnixNanoseconds call.start, uaDateTimeToUnixNanoseconds environment.now)
    else
      (uaDateTimeToUnixNanoseconds (if call.reverse then call.stop else call.start),
        uaDateTimeToUnixNanoseconds (if call.reverse then call.start else call.stop))
  if endNanoseconds ≤ startNanoseconds then
    (startNanoseconds, max (startNanoseconds + 1) (uaDateTimeToUnixNanoseconds environment.later))
  else (startNanoseconds, endNanoseconds)

/-- A result of signed 64 bit arithmetic. `none` stands for an overflow, which is undefined. -/
def signed64 (value : Int) : Option Int := if longMin ≤ value ∧ value ≤ longMax then some value else none

/-- `uaDateTimeToUnixNanoseconds` with every operation checked. -/
def checkedUnixNanoseconds (value : Int) : Option Int :=
  if value ≤ unixEpoch then some 0
  else do
    let delta100ns ← signed64 (value - unixEpoch)
    if longMax / 100 ≤ delta100ns then return longMax
    signed64 (delta100ns * 100)

/-- `unixNanosecondsToUaDateTime` with every operation checked. -/
def checkedUaDateTime (value : Int) : Option Int :=
  if value ≤ 0 then some unixEpoch else signed64 (unixEpoch + value.tdiv 100)

/-- `parseTimestampToNanoseconds` with every operation checked. -/
def checkedTimestamp (calendar : Calendar) (timestamp : Text) : Except StdException (Option Int) := do
  match calendar.getTime (timestamp.take 19) with
  | none => return some 0
  | some secondsSinceEpoch =>
    let fractionalNanoseconds ← match fractionText timestamp with
      | none => pure 0
      | some fraction => stoll fraction
    if secondsSinceEpoch < 0 then return some 0
    return do
      let product ← signed64 (secondsSinceEpoch * 1000000000)
      signed64 (product + fractionalNanoseconds)

/-- The bounds the caller asks for, with every operation checked. -/
def HistoryCall.checkedRequest (call : HistoryCall) (environment : UaEnvironment) : Option (Int × Int) := do
  let now ← checkedUnixNanoseconds environment.now
  if call.start = longMin ∧ call.stop = longMin then return (0, now)
  else if call.start = longMin then return (0, ← checkedUnixNanoseconds call.stop)
  else if call.stop = longMin then return (← checkedUnixNanoseconds call.start, now)
  else return (← checkedUnixNanoseconds (if call.reverse then call.stop else call.start),
    ← checkedUnixNanoseconds (if call.reverse then call.start else call.stop))

/-- The bounds of the query, with every operation checked. -/
def HistoryCall.checkedWindow (call : HistoryCall) (environment : UaEnvironment) : Option (Int × Int) := do
  let (startNanoseconds, endNanoseconds) ← call.checkedRequest environment
  if endNanoseconds ≤ startNanoseconds then
    let next ← signed64 (startNanoseconds + 1)
    return (startNanoseconds, max next (← checkedUnixNanoseconds environment.later))
  else return (startNanoseconds, endNanoseconds)

def historyQuery (ctx : InfluxHistoryBackendContext) (nodeId : UaNodeId) (call : HistoryCall)
    (environment : UaEnvironment) : HistoryRead :=
  .readRangeUnixNanoseconds (call.window environment).1 (call.window environment).2 ctx.influxFieldName
    (readTagsOf ctx nodeId)

def HistoryCall.arrange (call : HistoryCall) (records : List InfluxRecord) : List InfluxRecord :=
  if call.reverse then records.reverse else records

def pageLimit (call : HistoryCall) (remaining : Nat) : Nat :=
  let limit := if 0 < call.numValuesPerNode then min remaining call.numValuesPerNode else remaining
  if 0 < call.maxSizePerResponse then min limit call.maxSizePerResponse else limit

/-- The answer from the records and the offset on. The sums are sizes of parts of one
vector, so they do not wrap around. -/
def historyPage (call : HistoryCall) (environment : UaEnvironment) (skip : Nat) (records : List InfluxRecord) :
    HistoryPage :=
  if records.length ≤ skip then { status := .good }
  else
    let limit := pageLimit call (records.length - skip)
    if limit = 0 then { status := .good }
    else if !environment.arrayAllocated then { status := .badOutOfMemory }
    else
      let accessed := (List.range limit).map (skip + ·)
      let dataValues := accessed.map fun i => recordDataValue (records.getD i {})
      let nextOffset := skip + limit
      if nextOffset < records.length && call.hasOutContinuationPoint then
        if environment.pointAllocated then
          { status := .good, dataValues, outContinuationPoint := some { bytes := sizeBytes nextOffset }, accessed }
        else { status := .badOutOfMemory, accessed }
      else { status := .good, dataValues, accessed }

section Read
variable {σ : Type u} (reader : HistoryReader σ)

/-- An exception of the client leaves the function. -/
def getHistoryDataInflux (backend : Option InfluxHistoryBackendContext) (call : HistoryCall)
    (environment : UaEnvironment) (client : σ) : Except StdException HistoryPage × σ :=
  match backend, call.nodeId with
  | some ctx, some nodeId =>
    if !call.hasResult then (.ok { status := .badInvalidArgument }, client)
    else if call.releaseContinuationPoints then (.ok { status := .good }, client)
    else match parseContinuationPointOffset call.continuationPoint with
      | .error continuationStatus => (.ok { status := continuationStatus }, client)
      | .ok skip =>
        let answer := reader.read (historyQuery ctx nodeId call environment) client
        (answer.records.map fun records =>
          if answer.readError.isEmpty then historyPage call environment skip (call.arrange records)
          else { status := .badInternalError }, answer.client)
  | _, _ => (.ok { status := .badInvalidArgument }, client)

end Read
end OpcUaAdapter
