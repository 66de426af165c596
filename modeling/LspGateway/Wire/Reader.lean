import LspGateway.Json.Parser
import LspGateway.Text.Case
import LspGateway.Text.Quoted
import LspGateway.Text.Utf8

/-! # Reading frames

Bytes arrive in pieces of any size. A reader takes the lines of a header as they
come and a body when it is whole. Where bytes are missing it stops, and what it
has taken so far is a `Reading`, with which it goes on later: so only the bytes
matter and not the pieces in which they came.
-/

namespace LspGateway.Wire
open LspGateway.Text

/-- What has arrived on a stream and has not been taken. -/
structure Feed where
  buffer : List UInt8
  /-- Nothing more will arrive. -/
  ended : Bool
  deriving DecidableEq, Repr, Inhabited

/-- Adds bytes, unless the stream has ended. -/
def Feed.append (feed : Feed) (bytes : List UInt8) : Feed :=
  if feed.ended then feed else { feed with buffer := feed.buffer ++ bytes }

/-- No line may be longer than this. -/
def maxLine : Nat := 65536

/-- How much of a message has been taken. -/
inductive Reading
  /-- Lines of its header, and the last length that they told. -/
  | header (length : Option String)
  /-- Its header, which tells the length of the body. -/
  | body (length : Nat)
  deriving DecidableEq, Repr, Inhabited

/-- Nothing of a message has been taken. -/
def Reading.start : Reading := .header none

/-- What breaks a stream. -/
inductive Fault
  /-- More bytes than a line may have, and no end of the line. -/
  | endlessLine
  /-- A line that ends, but too late. -/
  | longLine
  | headerNotUtf8 (error : Utf8.DecodeError)
  | lengthNotInteger (text : String)
  | lengthTooLong (digits : Nat)
  | negativeLength
  /-- The stream ended inside a body. -/
  | truncated (arrived expected : Nat)
  | bodyNotUtf8 (error : Utf8.DecodeError)
  | bodyNotJson (error : Json.ParseError)
  /-- Bytes are missing for which someone else waits already. -/
  | busy (reading : Reading)
  deriving DecidableEq, Repr

/-- A text between quotes, cut off where it gets too long for a message. -/
def cutOff (text : String) : String := .ofList ((quoted text).toList.take 200)

def Fault.message : Fault → String
  | .endlessLine => "Separator is not found, and chunk exceed the limit"
  | .longLine => "Separator is found, but chunk is longer than limit"
  | .headerNotUtf8 e => e.message
  | .lengthNotInteger text => "invalid literal for int() with base 10: " ++ cutOff text
  | .lengthTooLong n => (Json.Fault.tooManyDigits n).message
  | .negativeLength => "readexactly size can not be less than zero"
  | .truncated arrived expected =>
    ofNat arrived ++ " bytes read on a total of " ++ ofNat expected ++ " expected bytes"
  | .bodyNotUtf8 e => e.message
  | .bodyNotJson e => e.message
  | .busy reading =>
    let call :=
      match reading with
      | .header _ => "readuntil"
      | .body _ => "readexactly"
    call ++ "() called while another coroutine is already waiting for incoming data"

/-- The bytes before a line break, and those after it. -/
def breakLine : List UInt8 → Option (List UInt8 × List UInt8)
  | [] => none
  | b :: bs =>
    if b = 10 then some ([], bs)
    else
      match breakLine bs with
      | some (line, rest) => some (b :: line, rest)
      | none => none

/-- What a stream has for someone who takes lines from it. -/
inductive Line
  /-- Its end has not arrived. -/
  | unfinished
  | line (bytes rest : List UInt8)
  /-- The stream has ended. -/
  | ended
  | fault (fault : Fault) (rest : List UInt8)
  deriving DecidableEq, Repr

/-- Takes a line with its line break. The end of the stream ends a line that has
begun. -/
def readLine (feed : Feed) : Line :=
  match breakLine feed.buffer with
  | some (line, rest) =>
    if maxLine < line.length then .fault .longLine rest else .line (line ++ [10]) rest
  | none =>
    if maxLine < feed.buffer.length then .fault .endlessLine []
    else if !feed.ended then .unfinished
    else if feed.buffer.isEmpty then .ended
    else .line feed.buffer []

/-- The header that tells the length of the body. -/
def lengthName : String := "content-length"

/-- The length a header line tells, if it is about that. -/
def lengthIn? (line : List Char) : Option String :=
  match splitFirst ':' line with
  | some (name, value) =>
    if lower (strip (.ofList name)) = lengthName then some (strip (.ofList value)) else none
  | none => none

/-- The length a header tells; none is told as zero. -/
def lengthOf : Option String → Except Fault Int
  | none => .ok 0
  | some text =>
    match readInt text with
    | .ok n => .ok n
    | .error .malformed => .error (.lengthNotInteger text)
    | .error (.tooLong n) => .error (.lengthTooLong n)

/-- The message in a body. -/
def readBody (body : List UInt8) : Except Fault Json :=
  match Utf8.decode body with
  | .error e => .error (.bodyNotUtf8 e)
  | .ok cs =>
    match Json.parse cs with
    | .error e => .error (.bodyNotJson e)
    | .ok j => .ok j

/-- What a stream has for someone who takes messages from it, with the bytes that
are left. -/
inductive Received
  | unfinished (reading : Reading) (rest : List UInt8)
  | message (message : Json) (rest : List UInt8)
  /-- The stream has ended. -/
  | ended (rest : List UInt8)
  | fault (fault : Fault) (rest : List UInt8)
  deriving DecidableEq, Repr

/-- Takes a body of the given length. A null stands for the end of the stream. -/
def takeBody (feed : Feed) (length : Nat) : Received :=
  let rest := feed.buffer.drop length
  if length ≤ feed.buffer.length then
    match readBody (feed.buffer.take length) with
    | .ok .null => .ended rest
    | .ok j => .message j rest
    | .error f => .fault f rest
  else if feed.ended then .fault (.truncated feed.buffer.length length) []
  else .unfinished (.body length) feed.buffer

/-- Takes what follows a header that told the given length. An empty body stands
for the end of the stream. -/
def takeAfterHeader (feed : Feed) (length : Option String) : Received :=
  match lengthOf length with
  | .error f => .fault f feed.buffer
  | .ok n =>
    if n < 0 then .fault .negativeLength feed.buffer
    else if n = 0 then .ended feed.buffer
    else takeBody feed n.toNat

/-- Takes header lines up to a blank one, and what follows it. Every line takes a
byte, so as many steps as there are bytes, and one more, are enough. -/
def takeHeader : Nat → Feed → Option String → Received
  | 0, feed, length => .unfinished (.header length) feed.buffer
  | fuel + 1, feed, length =>
    match readLine feed with
    | .unfinished => .unfinished (.header length) feed.buffer
    | .ended => .ended feed.buffer
    | .fault f rest => .fault f rest
    | .line line rest =>
      match Utf8.decode line with
      | .error e => .fault (.headerNotUtf8 e) rest
      | .ok cs =>
        let feed := { feed with buffer := rest }
        if cs.all isBlank then takeAfterHeader feed length
        else takeHeader fuel feed ((lengthIn? cs).or length)

/-- Takes what is missing of a message. -/
def next (feed : Feed) : Reading → Received
  | .header length => takeHeader (feed.buffer.length + 1) feed length
  | .body length => takeBody feed length

end LspGateway.Wire
