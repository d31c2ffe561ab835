import OpcUaAdapter.Config

/-! The text of a history query and the reading of its CSV response. Calendar
conversions belong to the C library and are a parameter. -/

namespace OpcUaAdapter

/-- `gmtime_r` with `put_time`, and `get_time` with `timegm`, for the format
`%Y-%m-%dT%H:%M:%S`. Reading fails when the stream does. -/
structure Calendar where
  putTime : Int → Text
  getTime : Text → Option Int

structure InfluxRecord where
  time : Text := []
  timestampNanoseconds : Int := 0
  measurement : Text := []
  field : Text := []
  value : Text := []
deriving DecidableEq

def escapeJson (input : Text) : Text :=
  input.flatMap fun c => match c with
    | '\\' => ['\\', '\\']
    | '"' => ['\\', '"']
    | '\n' => ['\\', 'n']
    | '\r' => ['\\', 'r']
    | '\t' => ['\\', 't']
    | c => [c]

def fluxTagFilter (tag : TagInformation) : Text :=
  " |> filter(fn: (r) => r[\"" ++ escapeJson tag.key ++ "\"] == \"" ++ escapeJson tag.value ++ "\")"

def fluxFieldFilter (fieldKey : Text) : Text :=
  if fieldKey.isEmpty then [] else " |> filter(fn: (r) => r._field == \"" ++ escapeJson fieldKey ++ "\")"

def buildFluxReadQuery (config : InfluxConfig) (startExpression stopExpression fieldKey : Text)
    (tags : List TagInformation) : Text :=
  "from(bucket: \"" ++ escapeJson config.bucket ++ "\")" ++
    " |> range(start: " ++ startExpression ++ ", stop: " ++ stopExpression ++ ")" ++
    " |> filter(fn: (r) => r._measurement == \"" ++ escapeJson config.measurement ++ "\")" ++
    fluxFieldFilter fieldKey ++ tags.flatMap fluxTagFilter

def formatRfc3339FromNanoseconds (calendar : Calendar) (epochNanoseconds : Int) : Text :=
  let nanoseconds := if epochNanoseconds < 0 then 0 else epochNanoseconds
  calendar.putTime (nanoseconds.tdiv 1000000000) ++
    '.' :: ((intText (nanoseconds.tmod 1000000000)).leftpad 9 '0' ++ ['Z'])

/-- The digits between the first dot and the first `Z`, cut or filled to nine. -/
def fractionText (timestamp : Text) : Option Text :=
  match find ['.'] timestamp, find ['Z'] timestamp with
  | some dotPos, some zPos =>
    if dotPos + 1 < zPos then
      some (((timestamp.drop (dotPos + 1)).take (zPos - dotPos - 1)).take 9 |>.rightpad 9 '0')
    else none
  | _, _ => none

def parseTimestampToNanoseconds (calendar : Calendar) (timestamp : Text) : Except StdException Int := do
  match calendar.getTime (timestamp.take 19) with
  | none => return 0
  | some secondsSinceEpoch =>
    let fractionalNanoseconds ← match fractionText timestamp with
      | none => pure 0
      | some fraction => stoll fraction
    if secondsSinceEpoch < 0 then return 0
    return secondsSinceEpoch * 1000000000 + fractionalNanoseconds

/-- The scanner of `parseCsvLine`, with its flag and the cell read so far. -/
def csvCells : Bool → Text → Text → List Text
  | _, current, [] => [current]
  | true, current, '"' :: '"' :: rest => csvCells true (current ++ ['"']) rest
  | inQuotes, current, c :: rest =>
    if c = '"' then csvCells (!inQuotes) current rest
    else if c = ',' && !inQuotes then current :: csvCells inQuotes [] rest
    else csvCells inQuotes (current ++ [c]) rest

def parseCsvLine (line : Text) : List Text := csvCells false [] line

def readCell (calendar : Calendar) (record : InfluxRecord) (name value : Text) : Except StdException InfluxRecord := do
  if name = "_time" then
    return { record with time := value, timestampNanoseconds := ← parseTimestampToNanoseconds calendar value }
  else if name = "_measurement" then return { record with measurement := value }
  else if name = "_field" then return { record with field := value }
  else if name = "_value" then return { record with value := value }
  else return record

def readLine (calendar : Calendar) (headers : List Text) (records : List InfluxRecord) (rawLine : Text) :
    Except StdException (List Text × List InfluxRecord) := do
  let line := trim rawLine
  if line.isEmpty || line.head? = some '#' then return (headers, records)
  if headers.isEmpty then return (parseCsvLine line, records)
  let row := parseCsvLine line
  if row.length < headers.length then return (headers, records)
  let record ← (headers.zip row).foldlM (fun record cell => readCell calendar record cell.1 cell.2) {}
  return (headers, if record.time.isEmpty then records else records ++ [record])

def readRecords (calendar : Calendar) (response : Text) : Except StdException (List InfluxRecord) := do
  let (_, records) ← (getlines response).foldlM
    (fun (headers, records) line => readLine calendar headers records line) ([], [])
  return records

end OpcUaAdapter
