import OpcUaAdapter.Library.Delimited
import OpcUaAdapter.LineProtocol

/-! The other side of the line protocol: how a line is read from left to right. A
backslash before a comma, a space or an equals sign stands for that character, and a
bare one of them separates. -/

namespace OpcUaAdapter

structure LineHead where
  measurement : Text
  tags : List (Text × Text)
  influxFieldName : Text
deriving DecidableEq

/-- The tags and the field name, from the separators and the texts after them. -/
def readTags : List (Char × Text) → Option (List (Text × Text) × Text)
  | (' ', influxFieldName) :: ('=', _) :: _ => some ([], influxFieldName)
  | (',', key) :: ('=', value) :: rest =>
    (readTags rest).map fun (tags, influxFieldName) => ((key, value) :: tags, influxFieldName)
  | _ => none

def readLineHead (line : Text) : Option LineHead :=
  let tokens := Delimited.pieces '\\' needsBackslash line
  (readTags tokens.2).map fun (tags, influxFieldName) => ⟨tokens.1, tags, influxFieldName⟩

/-- The split of a line the tests of the client make. -/
def splitInfluxRequest : Text → Text × Text
  | [] => ([], [])
  | '\\' :: ' ' :: rest => ('\\' :: ' ' :: (splitInfluxRequest rest).1, (splitInfluxRequest rest).2)
  | ' ' :: rest => ([], rest)
  | c :: rest => (c :: (splitInfluxRequest rest).1, (splitInfluxRequest rest).2)

/-- The text of a string literal after its opening quote. Only a backslash before a
quote or a backslash is an escape. `none` unless the closing quote ends the text. -/
def literalBody : Text → Option Text
  | [] => none
  | '\\' :: '"' :: rest => (literalBody rest).map ('"' :: ·)
  | '\\' :: '\\' :: rest => (literalBody rest).map ('\\' :: ·)
  | '"' :: rest => if rest.isEmpty then some [] else none
  | c :: rest => (literalBody rest).map (c :: ·)

def storedString : Text → Option Text
  | '"' :: rest => literalBody rest
  | _ => none

/-- The text after the last separator. -/
def textAfter (separator : Char) (text : Text) : Text := text.rtakeWhile (· ≠ separator)

def readDecimal (text : Text) : Option Int :=
  match scanInteger text with
  | some (negative, value, []) => some (if negative then -(value : Int) else value)
  | _ => none

def queryParameter (name query : Text) : Option Text :=
  (query.splitOn '&').findSome? fun part =>
    if (name ++ ['=']).isPrefixOf part then some (part.drop (name.length + 1)) else none

def unitNanoseconds (precision : Text) : Option Int :=
  if precision = "ns" then some 1
  else if precision = "us" then some (10 ^ 3)
  else if precision = "ms" then some (10 ^ 6)
  else if precision = "s" then some (10 ^ 9)
  else none

end OpcUaAdapter
