import OpcUaAdapter.Config

/-! Line protocol records as `InfluxClient` writes them: escaping, the merge of the
configured extra tags, one line for each point and the payload of a batch. -/

namespace OpcUaAdapter

structure FieldValue where
  value : Text
  isString : Bool := false
deriving DecidableEq

structure PendingWritePoint where
  influxFieldName : Text
  fieldValue : FieldValue
  tags : List TagInformation
  timestampNanoseconds : Option Int
deriving DecidableEq

def needsBackslash (c : Char) : Bool := c = ',' || c = ' ' || c = '='

def escapeLineProtocolIdentifier (input : Text) : Text :=
  input.flatMap fun c => if needsBackslash c then ['\\', c] else [c]

def escapeLineProtocolStringValue (input : Text) : Text :=
  trim (input.flatMap fun c => match c with
    | '\\' => ['\\', '\\']
    | '"' => ['\\', '"']
    | '\n' => ['\\', 'n']
    | '\r' => ['\\', 'r']
    | c => [c])

/-- Whether a configured tag is meant for the variable the base tags describe. -/
def extraTagApplies (tags : List TagInformation) (tagInfo : TagInformation) : Bool :=
  if tagInfo.sourceName.isEmpty then true
  else match tags.find? (fun tag : TagInformation => tag.key = "nodeId") with
    | none => false
    | some sourceId => (find tagInfo.sourceName sourceId.value).isSome

def updateTag : List TagInformation → TagInformation → List TagInformation
  | [], tagInfo => [tagInfo]
  | tag :: rest, tagInfo =>
    if tag.key = tagInfo.key then { tag with value := tagInfo.value } :: rest
    else tag :: updateTag rest tagInfo

def mergedTags (config : InfluxConfig) (tags : List TagInformation) : List TagInformation :=
  config.extraTags.foldl (fun merged tagInfo =>
    if extraTagApplies tags tagInfo then updateTag merged tagInfo else merged) tags

def tagText (tagInfo : TagInformation) : Text :=
  ',' :: (escapeLineProtocolIdentifier tagInfo.key ++ '=' :: escapeLineProtocolIdentifier tagInfo.value)

def seriesText (config : InfluxConfig) (tags : List TagInformation) : Text :=
  escapeLineProtocolIdentifier config.measurement ++ (mergedTags config tags).flatMap tagText

def valueText (fieldValue : FieldValue) : Text :=
  if fieldValue.isString then '"' :: (escapeLineProtocolStringValue fieldValue.value ++ ['"'])
  else fieldValue.value

def timestampText : Option Int → Text
  | none => []
  | some timestampNanoseconds => ' ' :: intText timestampNanoseconds

def fieldText (influxFieldName : Text) (fieldValue : FieldValue) (timestampNanoseconds : Option Int) : Text :=
  escapeLineProtocolIdentifier influxFieldName ++ '=' :: (valueText fieldValue ++ timestampText timestampNanoseconds)

def buildLineProtocol (config : InfluxConfig) (influxFieldName : Text) (fieldValue : FieldValue)
    (tags : List TagInformation) (timestampNanoseconds : Option Int) : Text :=
  seriesText config tags ++ ' ' :: fieldText influxFieldName fieldValue timestampNanoseconds

def PendingWritePoint.line (config : InfluxConfig) (point : PendingWritePoint) : Text :=
  buildLineProtocol config point.influxFieldName point.fieldValue point.tags point.timestampNanoseconds

def batchPayload (config : InfluxConfig) : List PendingWritePoint → Text
  | [] => []
  | point :: rest => point.line config ++ (if 0 < rest.length then ['\n'] else []) ++ batchPayload config rest

end OpcUaAdapter
