import GoldenRun.Json.Token

/-!
# JSON values

A value is read from tokens with a stack of the arrays and objects that are still open, so values
may nest without bound. Strings without a text and numbers that are no plain digits are well
formed, and are told apart from those that have a value.
-/

namespace GoldenRun

/-- A JSON value. Members of an object stay in the order in which they are written. -/
inductive Json
  | null
  | bool (value : Bool)
  | number (value : Option Nat)
  | text (value : Option String)
  | array (items : List Json)
  | object (members : List (Option String × Json))

namespace Json

/-- An array or object that is still open, with what it holds so far, the last first. An object
also knows the key of the value that is to come. -/
inductive Frame
  | array (items : List Json)
  | object (members : List (Option String × Json)) (key : Option String)

/-- What may come next: a value, a value or the end of an array, a key, a key or the end of an
object, the colon behind a key, or what follows a complete value. -/
inductive Expect
  | value
  | item
  | key
  | member
  | colon
  | after (value : Json)

/-- A reader between two tokens. -/
structure Reader where
  frames : List Frame
  expect : Expect

namespace Reader

def start : Reader :=
  ⟨[], .value⟩

def complete (frames : List Frame) (value : Json) : Option Reader :=
  some ⟨frames, .after value⟩

def takeValue (frames : List Frame) : Token → Option Reader
  | .null => complete frames .null
  | .bool value => complete frames (.bool value)
  | .number value => complete frames (.number value)
  | .text value => complete frames (.text value)
  | .openArray => some ⟨.array [] :: frames, .item⟩
  | .openObject => some ⟨.object [] none :: frames, .member⟩
  | _ => none

def takeKey : List Frame → Token → Option Reader
  | .object members _ :: frames, .text key => some ⟨.object members key :: frames, .colon⟩
  | _, _ => none

def takeAfter (value : Json) : List Frame → Token → Option Reader
  | .array items :: frames, .comma => some ⟨.array (value :: items) :: frames, .value⟩
  | .array items :: frames, .closeArray =>
    complete frames (.array (value :: items).reverse)
  | .object members key :: frames, .comma =>
    some ⟨.object ((key, value) :: members) none :: frames, .key⟩
  | .object members key :: frames, .closeObject =>
    complete frames (.object ((key, value) :: members).reverse)
  | _, _ => none

def take (reader : Reader) (token : Token) : Option Reader :=
  match reader.expect, reader.frames, token with
  | .value, frames, token => takeValue frames token
  | .item, .array _ :: frames, .closeArray => complete frames (.array [])
  | .item, frames, token => takeValue frames token
  | .key, frames, token => takeKey frames token
  | .member, .object _ _ :: frames, .closeObject => complete frames (.object [])
  | .member, frames, token => takeKey frames token
  | .colon, frames, .colon => some ⟨frames, .value⟩
  | .colon, _, _ => none
  | .after value, frames, token => takeAfter value frames token

/-- The value that has been read, if nothing is open any more. -/
def result? (reader : Reader) : Option Json :=
  match reader.frames, reader.expect with
  | [], .after value => some value
  | _, _ => none

def takeAll (reader : Reader) : List Token → Option Reader
  | [] => some reader
  | token :: rest => (reader.take token).bind (takeAll · rest)

end Reader

def ofTokens? (tokens : List Token) : Option Json :=
  (Reader.start.takeAll tokens).bind Reader.result?

def parse? (text : List Char) : Option Json :=
  (tokens text).bind ofTokens?

end Json

end GoldenRun
