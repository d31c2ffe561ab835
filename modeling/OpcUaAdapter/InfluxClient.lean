import OpcUaAdapter.FluxRead
import OpcUaAdapter.LineProtocol

/-! `InfluxClient` as a state with its member functions. What libcurl and the server
do with one request is data, so a theorem can range over every behaviour of both.
An error pointer is an optional text: `none` for a null pointer. -/

namespace OpcUaAdapter

/-- The outcome of `curl_easy_init` and `curl_easy_perform` inside `sendRequest`. -/
inductive Reply where
  | noHandle
  | failed (reason : Text)
  | answered (status : Int) (response : Text)
deriving DecidableEq

/-- One write or read: its caller may get no handle for URL encoding, else a request is made. -/
inductive Exchange where
  | noEncodeHandle
  | request (reply : Reply)
deriving DecidableEq

/-- `curl_easy_escape`, with `none` for a null result. -/
structure Curl where
  escape : Text → Option Text

def urlEncode (curl : Curl) (value : Text) : Text := (curl.escape value).getD []

structure HttpRequest where
  url : Text
  method : Text
  authorization : Text
  contentType : Text
  accept : Text
  body : Text
deriving DecidableEq

structure InfluxClient where
  config : InfluxConfig
  writeQueue : List PendingWritePoint := []
  stopWriteWorker : Bool := false
  queuedPointsDropped : Nat := 0
  pointsWritten : Nat := 0
  pointsDropped : Nat := 0
  batchesWritten : Nat := 0
  batchWriteFailures : Nat := 0
  retryAttempts : Nat := 0
  errorCode : Nat := 0
  fundamentalErrorOccurred : Bool := false
  lastAsyncWriteError : Text := []
deriving DecidableEq

structure InfluxWriteStats where
  queuedPoints : Nat
  queuedPointsDropped : Nat
  pointsWritten : Nat
  pointsDropped : Nat
  batchesWritten : Nat
  batchWriteFailures : Nat
  retryAttempts : Nat
  errorCode : Nat
  fundamentalErrorOccurred : Bool
deriving DecidableEq

/-- What a call returns and leaves, with the bodies it has handed to libcurl. -/
structure Sent where
  ok : Bool
  status : Int := 0
  response : Text := []
  error : Option Text
  client : InfluxClient
  posted : List Text := []
deriving DecidableEq

/-- The result of `attemptSendBatch`, with the number of sends, the waits between them in
milliseconds and the bodies of all its requests. -/
structure BatchResult where
  ok : Bool
  error : Option Text
  client : InfluxClient
  sends : Nat
  waits : List Int
  posted : List Text := []
deriving DecidableEq

structure ReadResult where
  records : Except StdException (List InfluxRecord)
  error : Option Text
  client : InfluxClient
  posted : List Text := []

def stripTrailingSlash (url : Text) : Text :=
  if url.getLast? = some '/' then url.dropLast else url

def httpRequest (config : InfluxConfig) (endpoint queryParameters method body contentType accept : Text) :
    HttpRequest :=
  { url := stripTrailingSlash config.url ++ endpoint ++ if queryParameters.isEmpty then [] else '?' :: queryParameters
    method
    authorization := "Authorization: Token " ++ config.token
    contentType := "Content-Type: " ++ contentType
    accept := "Accept: " ++ accept
    body }

def writeQuery (curl : Curl) (config : InfluxConfig) : Text :=
  "org=" ++ urlEncode curl config.org ++ "&bucket=" ++ urlEncode curl config.bucket ++
    "&precision=" ++ urlEncode curl config.precision

def writeRequest (curl : Curl) (config : InfluxConfig) (payload : Text) : HttpRequest :=
  httpRequest config "/api/v2/write" (writeQuery curl config) "POST" payload "text/plain; charset=utf-8"
    "application/json"

/-- The body of the request for a query. -/
def queryBody (fluxQuery : Text) : Text :=
  "\x7b\"query\":\"" ++ escapeJson fluxQuery ++ "\",\"type\":\"flux\"\x7d"

def queryRequest (curl : Curl) (config : InfluxConfig) (fluxQuery : Text) : HttpRequest :=
  httpRequest config "/api/v2/query" ("org=" ++ urlEncode curl config.org) "POST" (queryBody fluxQuery)
    "application/json" "application/csv"

/-- A stored 64 bit status becomes a `size_t`. -/
def sizeOfStatus (status : Int) : Nat := (status % 2 ^ 64).toNat

def isSuccessStatus (status : Int) : Bool := 200 ≤ status && status < 300

def isFundamentalStatus (status : Int) : Bool := status = 401 || status = 404 || status = 400

namespace InfluxClient
variable (client : InfluxClient)

def hasAsyncWriteError : Bool := !client.lastAsyncWriteError.isEmpty

def hasFundamentalError : Bool := client.fundamentalErrorOccurred

def clearAsyncWriteError : InfluxClient := { client with lastAsyncWriteError := [] }

def setLastAsyncWriteError (error : Text) : InfluxClient := { client with lastAsyncWriteError := error }

def getWriteStats : InfluxWriteStats :=
  { queuedPoints := client.writeQueue.length
    queuedPointsDropped := client.queuedPointsDropped
    pointsWritten := client.pointsWritten
    pointsDropped := client.pointsDropped
    batchesWritten := client.batchesWritten
    batchWriteFailures := client.batchWriteFailures
    retryAttempts := client.retryAttempts
    errorCode := client.errorCode
    fundamentalErrorOccurred := client.fundamentalErrorOccurred }

def sendRequest (body : Text) (error : Option Text) : Reply → Sent
  | .noHandle =>
    { ok := false, error := error.map fun _ => "Failed to initialize CURL handle", client }
  | .failed reason =>
    { ok := false
      error := error.map fun _ => "HTTP request failed: " ++ reason
      client := if error.isSome then { client with fundamentalErrorOccurred := true } else client
      posted := [body] }
  | .answered status response => { ok := true, status, response, error, client, posted := [body] }

def sendWritePayload (payload : Text) (error : Option Text) : Exchange → Sent
  | .noEncodeHandle =>
    { ok := false, error := error.map fun _ => "Failed to initialize CURL for URL encoding", client }
  | .request reply =>
    let sent := client.sendRequest payload (some []) reply
    if !sent.ok then { sent with error := error.map fun _ => sent.error.getD [] }
    else if isSuccessStatus sent.status then { sent with error }
    else
      { sent with
        ok := false
        error := error.map fun _ => "Write failed with HTTP " ++ intText sent.status ++ ": " ++ sent.response
        client :=
          if error.isSome then
            { sent.client with
              errorCode := sizeOfStatus sent.status
              fundamentalErrorOccurred :=
                isFundamentalStatus sent.status || sent.client.fundamentalErrorOccurred }
          else sent.client }

def maxAttempts : Nat := (client.config.writeBatching.maxRetries + 1) % 2 ^ 64

/-- The wait after a failed attempt. The shift is computed in `size_t`. -/
def backoffMs (attempt : Nat) : Int :=
  max 1 client.config.writeBatching.retryBackoffMs * 2 ^ min ((attempt + (2 ^ 64 - 1)) % 2 ^ 64) 6

def attemptOnce (payload : Text) (attempt : Nat) (error : Option Text) (exchange : Exchange) : Sent :=
  let sent := client.sendWritePayload payload error exchange
  if !sent.ok && attempt < client.maxAttempts then
    { sent with client := { sent.client with retryAttempts := sent.client.retryAttempts + 1 } }
  else sent

/-- The loop of `attemptSendBatch` from a given attempt on. `none` while the
outcome of a further attempt is still missing. -/
def attemptFrom (client : InfluxClient) (payload : Text) (attempt : Nat) (error : Option Text) :
    List Exchange → Option BatchResult
  | [] =>
    if attempt ≤ client.maxAttempts then none
    else some { ok := false, error, client, sends := 0, waits := [] }
  | exchange :: rest =>
    if attempt ≤ client.maxAttempts then
      let sent := client.attemptOnce payload attempt error exchange
      if sent.ok then
        some { ok := true, error := sent.error, client := sent.client, sends := 1, waits := [], posted := sent.posted }
      else (attemptFrom sent.client payload ((attempt + 1) % 2 ^ 64) sent.error rest).map fun result =>
        { result with
          sends := result.sends + 1
          waits := if attempt < client.maxAttempts then client.backoffMs attempt :: result.waits else result.waits
          posted := sent.posted ++ result.posted }
    else some { ok := false, error, client, sends := 0, waits := [] }

def attemptSendBatch (payload : Text) (error : Option Text) (exchanges : List Exchange) : Option BatchResult :=
  client.attemptFrom payload 1 error exchanges

def executeFluxReadQuery (calendar : Calendar) (fluxQuery : Text) (error : Option Text) : Exchange → ReadResult
  | .noEncodeHandle =>
    { records := .ok [], error := error.map fun _ => "Failed to initialize CURL for URL encoding", client }
  | .request reply =>
    let sent := client.sendRequest (queryBody fluxQuery) (some []) reply
    if !sent.ok then
      { records := .ok []
        error := error.map fun _ => sent.error.getD []
        client := sent.client
        posted := sent.posted }
    else if isSuccessStatus sent.status then
      { records := readRecords calendar sent.response, error, client := sent.client, posted := sent.posted }
    else
      { records := .ok []
        error := error.map fun _ => "Read failed with HTTP " ++ intText sent.status ++ ": " ++ sent.response
        client := sent.client
        posted := sent.posted }

end InfluxClient

inductive HistoryRead where
  | readRange (start stop : Text)
  | readRangeUnixNanoseconds (startNanoseconds stopNanoseconds : Int) (influxFieldName : Text)
      (tags : List TagInformation)

def timeExpression (calendar : Calendar) (nanoseconds : Int) : Text :=
  "time(v: \"" ++ formatRfc3339FromNanoseconds calendar nanoseconds ++ "\")"

def HistoryRead.fluxQuery (calendar : Calendar) (config : InfluxConfig) : HistoryRead → Text
  | .readRange start stop => buildFluxReadQuery config start stop [] []
  | .readRangeUnixNanoseconds startNanoseconds stopNanoseconds influxFieldName tags =>
    buildFluxReadQuery config (timeExpression calendar startNanoseconds)
      (timeExpression calendar stopNanoseconds) influxFieldName tags

def HistoryRead.invalidRange : HistoryRead → Bool
  | .readRange _ _ => false
  | .readRangeUnixNanoseconds startNanoseconds stopNanoseconds _ _ => stopNanoseconds ≤ startNanoseconds

namespace InfluxClient
variable (client : InfluxClient)

def read (calendar : Calendar) (query : HistoryRead) (error : Option Text) (exchange : Exchange) : ReadResult :=
  if query.invalidRange then
    { records := .ok []
      error := error.map fun _ => "Invalid range: stopNanoseconds must be greater than startNanoseconds"
      client }
  else client.executeFluxReadQuery calendar (query.fluxQuery calendar client.config) error exchange

def refusesWrites : Bool := client.config.writeBatching.failFastOnAsyncError && client.hasAsyncWriteError

/-- The part of `writePoint` that holds the queue lock. -/
def enqueue (point : PendingWritePoint) (error : Option Text) : Sent :=
  if client.config.writeBatching.maxQueuePoints ≤ client.writeQueue.length then
    { ok := false
      error := error.map fun _ => "Write queue is full"
      client :=
        { client with
          pointsDropped := client.pointsDropped + 1
          queuedPointsDropped := client.queuedPointsDropped + 1 } }
  else { ok := true, error, client := { client with writeQueue := client.writeQueue ++ [point] } }

def writeDirect (point : PendingWritePoint) (error : Option Text) (exchanges : List Exchange) : Option Sent :=
  (client.attemptSendBatch (point.line client.config) error exchanges).map fun result =>
    { ok := result.ok
      error := result.error
      posted := result.posted
      client :=
        if result.ok then
          { result.client with
            pointsWritten := result.client.pointsWritten + 1
            batchesWritten := result.client.batchesWritten + 1 }
        else
          { result.client with
            batchWriteFailures := result.client.batchWriteFailures + 1
            pointsDropped := result.client.pointsDropped + 1 } }

/-- `writePoint` when no other thread runs. The exchanges are only used without batching. -/
def writePoint (point : PendingWritePoint) (error : Option Text) (exchanges : List Exchange) : Option Sent :=
  if !client.config.writeBatching.enabled then client.writeDirect point error exchanges
  else if client.refusesWrites then
    some { ok := false, error := error.map fun _ => client.lastAsyncWriteError, client }
  else some (client.enqueue point error)

end InfluxClient
end OpcUaAdapter
