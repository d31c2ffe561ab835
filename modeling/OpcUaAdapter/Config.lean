import OpcUaAdapter.Text

/-! The configuration of the InfluxDB client and `ConfigLoader`, which reads it from
a parsed XML document. Parsing the file itself is left to libxml2. -/

namespace OpcUaAdapter

structure InfluxWriteBatchingConfig where
  enabled : Bool := true
  maxBatchPoints : Nat := 250
  maxQueuePoints : Nat := 10000
  flushIntervalMs : Int := 100
  maxRetries : Nat := 3
  retryBackoffMs : Int := 200
  failFastOnAsyncError : Bool := false
deriving DecidableEq

structure TagInformation where
  key : Text
  value : Text := []
  sourceName : Text := []
deriving DecidableEq

structure InfluxConfig where
  url : Text := []
  token : Text := []
  org : Text := []
  bucket : Text := []
  measurement : Text := []
  precision : Text := []
  extraTags : List TagInformation := []
  writeBatching : InfluxWriteBatchingConfig := {}
  addNameTags : Bool := false
deriving DecidableEq

/-- The part of a libxml2 tree the loader looks at. Names are local names. -/
inductive XmlNode where
  | element (name : Text) (attributes : List (Text × Text)) (children : List XmlNode)
  | text (content : Text)

namespace XmlNode

mutual
def content : XmlNode → Text
  | .element _ _ children => contents children
  | .text content => content

def contents : List XmlNode → Text
  | [] => []
  | child :: rest => child.content ++ contents rest
end

def children : XmlNode → List XmlNode
  | .element _ _ children => children
  | .text _ => []

def isElement (elementName : Text) : XmlNode → Bool
  | .element name _ _ => name = elementName
  | .text _ => false

def getProp (attributeName : Text) : XmlNode → Option Text
  | .element _ attributes _ => attributes.lookup attributeName
  | .text _ => none

end XmlNode

namespace ConfigLoader

def requireChildContent (root : XmlNode) (elementName : Text) : Except Text Text :=
  match root.children.find? (XmlNode.isElement elementName) with
  | none => .error ("Missing required XML element: " ++ elementName)
  | some child =>
    let value := trim child.content
    if value.isEmpty then .error ("Empty text content for XML element: " ++ elementName) else .ok value

def optionalChildContent (root : XmlNode) (elementName : Text) : Text :=
  match root.children.find? (XmlNode.isElement elementName) with
  | none => []
  | some child => trim child.content

def lowercase (value : Text) : Text := value.map Char.toLower

def parseAddNameTags (child : XmlNode) : Bool :=
  match child.getProp "addNameTags" with
  | none => false
  | some value => lowercase value = "true" || value = "1"

def parseTag (tagNode : XmlNode) : Option TagInformation :=
  match (tagNode.getProp "name").map trim with
  | none => none
  | some name =>
    if name.isEmpty then none
    else
      let sourceName := ((tagNode.getProp "sourceName").map trim).getD []
      let tag := trim tagNode.content
      if tag.isEmpty then none else some ⟨name, tag, sourceName⟩

def parseExtraTags (root : XmlNode) : List TagInformation × Bool :=
  match root.children.find? (XmlNode.isElement "extra_tags") with
  | none => ([], false)
  | some child => ((child.children.filter (XmlNode.isElement "tag")).filterMap parseTag, parseAddNameTags child)

def parseSizeValue (value : Text) (defaultValue minValue : Nat) : Nat :=
  if value.isEmpty then defaultValue
  else match strtoul (cStr value) with
    | some (parsed, []) => if parsed < minValue then minValue else parsed
    | _ => defaultValue

/-- `static_cast<int>` of a 64 bit value keeps its low 32 bits. -/
def castInt (value : Int) : Int := (value + 2 ^ 31) % 2 ^ 32 - 2 ^ 31

def parseIntValue (value : Text) (defaultValue minValue : Int) : Int :=
  if value.isEmpty then defaultValue
  else match strtol (cStr value) with
    | some (parsed, []) => if castInt parsed < minValue then minValue else castInt parsed
    | _ => defaultValue

def parseBooleanValue (value : Text) (defaultValue : Bool) : Bool :=
  if value.isEmpty then defaultValue
  else if lowercase value = "true" || lowercase value = "1" then true
  else if lowercase value = "false" || lowercase value = "0" then false
  else defaultValue

def parseWriteBatching (root : XmlNode) : InfluxWriteBatchingConfig :=
  let batching : InfluxWriteBatchingConfig := {}
  match root.children.find? (XmlNode.isElement "write_batching") with
  | none => batching
  | some child =>
    { enabled := parseBooleanValue (optionalChildContent child "enabled") batching.enabled
      maxBatchPoints := parseSizeValue (optionalChildContent child "max_batch_points") batching.maxBatchPoints 1
      maxQueuePoints := parseSizeValue (optionalChildContent child "max_queue_points") batching.maxQueuePoints 1
      flushIntervalMs := parseIntValue (optionalChildContent child "flush_interval_ms") batching.flushIntervalMs 1
      maxRetries := parseSizeValue (optionalChildContent child "max_retries") batching.maxRetries 0
      retryBackoffMs := parseIntValue (optionalChildContent child "retry_backoff_ms") batching.retryBackoffMs 1
      failFastOnAsyncError :=
        parseBooleanValue (optionalChildContent child "fail_fast_on_async_error") batching.failFastOnAsyncError }

/-- `document` is what libxml2 makes of the file: nothing, or a document that may lack a root. -/
def loadFromXmlFile (path : Text) (document : Option (Option XmlNode)) : Except Text InfluxConfig :=
  match document with
  | none => .error ("Failed to parse XML config file: " ++ path)
  | some none => .error "Invalid XML config: missing root element <influxdb>"
  | some (some root) =>
    if root.isElement "influxdb" then do
      let url ← requireChildContent root "url"
      let token ← requireChildContent root "token"
      let org ← requireChildContent root "org"
      let bucket ← requireChildContent root "bucket"
      let measurement ← requireChildContent root "measurement"
      let precision ← requireChildContent root "precision"
      return { url, token, org, bucket, measurement, precision,
               extraTags := (parseExtraTags root).1, addNameTags := (parseExtraTags root).2,
               writeBatching := parseWriteBatching root }
    else .error "Invalid XML config: missing root element <influxdb>"

end ConfigLoader
end OpcUaAdapter
