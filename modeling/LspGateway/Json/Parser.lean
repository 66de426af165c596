import LspGateway.Json.Basic

/-! # Reading JSON

A reader for JSON that also accepts the names of the numbers beyond the format's
range, and lets the last of several members of one key win. A fault is placed at
what is left of the text, from which line and column follow.
-/

namespace LspGateway.Json

/-- What the reader objects to. -/
inductive Fault
  | expectingValue
  | expectingName
  | expectingColon
  | expectingComma
  | unterminatedString
  | controlCharacter
  | badEscape
  | badUnicodeEscape
  | extraData
  | byteOrderMark
  /-- An integer with more digits than are read. -/
  | tooManyDigits (count : Nat)
  /-- An array or an object inside more others than are read. -/
  | tooDeep (isObject : Bool)
  deriving DecidableEq, Repr

/-- A fault and what is left of the text from its place on. -/
structure Stop where
  fault : Fault
  rest : List Char
  deriving DecidableEq, Repr

/-- The blanks of the grammar. -/
def isSpace (c : Char) : Bool := c = ' ' || c = '\t' || c = '\n' || c = '\r'

def skipSpace (cs : List Char) : List Char := cs.dropWhile isSpace

/-- Four hexadecimal digits, with at least one more character after them. -/
def readUnit : List Char → Option (Nat × List Char)
  | a :: b :: c :: d :: e :: rest => do
    let a ← Text.hexDigit? a
    let b ← Text.hexDigit? b
    let c ← Text.hexDigit? c
    let d ← Text.hexDigit? d
    pure (((a * 16 + b) * 16 + c) * 16 + d, e :: rest)
  | _ => none

/-- The character of an escape of one letter. -/
def simpleEscape? (c : Char) : Option Char :=
  if c = '"' then some '"'
  else if c = '\\' then some '\\'
  else if c = '/' then some '/'
  else if c = 'b' then some (Char.ofNat 8)
  else if c = 'f' then some (Char.ofNat 12)
  else if c = 'n' then some '\n'
  else if c = 'r' then some '\r'
  else if c = 't' then some '\t'
  else none

/-- A unit that is no character by itself becomes a replacement character. -/
def unitChar (n : Nat) : Char :=
  if 0xD800 ≤ n && n < 0xE000 then Char.ofNat 0xFFFD else Char.ofNat n

/-- Reads the escape after `\u`; the second part of a pair belongs to it. The
character, and what follows. -/
def readUnicode (cs : List Char) : Except Stop (Char × List Char) :=
  match readUnit cs with
  | none => .error ⟨.badUnicodeEscape, 'u' :: cs⟩
  | some (n, rest) =>
    if 0xD800 ≤ n && n < 0xDC00 then
      match rest with
      | '\\' :: 'u' :: more =>
        if 5 ≤ more.length then
          match readUnit more with
          | none => .error ⟨.badUnicodeEscape, 'u' :: more⟩
          | some (m, after) =>
            if 0xDC00 ≤ m && m < 0xE000 then
              .ok (Char.ofNat (0x10000 + (n - 0xD800) * 0x400 + (m - 0xDC00)), after)
            else .ok (unitChar n, rest)
        else .ok (unitChar n, rest)
      | _ => .ok (unitChar n, rest)
    else .ok (unitChar n, rest)

/-- Reads a string after its opening quote; `start` is the text from that quote
on. The fuel bounds the number of characters. -/
def readString (start : List Char) : Nat → List Char → List Char → Except Stop (String × List Char)
  | 0, _, _ => .error ⟨.unterminatedString, start⟩
  | _ + 1, [], _ => .error ⟨.unterminatedString, start⟩
  | fuel + 1, c :: cs, acc =>
    if c = '"' then .ok (.ofList acc.reverse, cs)
    else if c = '\\' then
      match cs with
      | [] => .error ⟨.unterminatedString, start⟩
      | e :: rest =>
        if e = 'u' then
          match readUnicode rest with
          | .error stop => .error stop
          | .ok (ch, after) => readString start fuel after (ch :: acc)
        else
          match simpleEscape? e with
          | none => .error ⟨.badEscape, c :: cs⟩
          | some ch => readString start fuel rest (ch :: acc)
    else if c.toNat < 32 then .error ⟨.controlCharacter, c :: cs⟩
    else readString start fuel cs (c :: acc)

def isDigit (c : Char) : Bool := '0' ≤ c && c ≤ '9'

/-- The whole part of a number: zero, or digits that do not start with one. -/
def readWhole : List Char → Option (List Char × List Char)
  | [] => none
  | c :: cs =>
    if c = '0' then some ([c], cs)
    else if isDigit c then some (c :: cs.takeWhile isDigit, cs.dropWhile isDigit)
    else none

/-- The digits of a fraction, none if there is no fraction. -/
def readFraction : List Char → List Char × List Char
  | '.' :: cs =>
    match cs.takeWhile isDigit with
    | [] => ([], '.' :: cs)
    | ds => (ds, cs.dropWhile isDigit)
  | cs => ([], cs)

/-- The exponent, `none` if there is none. -/
def readExponent : List Char → Option Int × List Char
  | [] => (none, [])
  | e :: cs =>
    if e = 'e' || e = 'E' then
      let (negative, ds) :=
        match cs with
        | '-' :: rest => (true, rest)
        | '+' :: rest => (false, rest)
        | _ => (false, cs)
      match ds.takeWhile isDigit with
      | [] => (none, e :: cs)
      | run =>
        let n := Text.ofDigits (run.filterMap Text.digit?)
        (some (if negative then -(n : Int) else n), ds.dropWhile isDigit)
    else (none, e :: cs)

/-- Reads a number: an integer, unless it has a fraction or an exponent. -/
def readNumber (cs : List Char) : Except Stop (Json × List Char) :=
  let (negative, body) :=
    match cs with
    | '-' :: rest => (true, rest)
    | _ => (false, cs)
  match readWhole body with
  | none => .error ⟨.expectingValue, cs⟩
  | some (whole, rest) =>
    let (fraction, rest) := readFraction rest
    let (exponent, rest) := readExponent rest
    if fraction.isEmpty && exponent.isNone then
      if Text.maxDigits < whole.length then .error ⟨.tooManyDigits whole.length, cs⟩
      else
        let n := Text.ofDigits (whole.filterMap Text.digit?)
        .ok (.int (if negative then -(n : Int) else n), rest)
    else
      let n := Text.ofDigits ((whole ++ fraction).filterMap Text.digit?)
      let e := exponent.getD 0 - (fraction.length : Int)
      .ok (.float (Binary64.ofDecimal negative n e), rest)

/-- The values written as a word. -/
def words : List (List Char × Json) := [
  ("null".toList, .null), ("true".toList, .bool true), ("false".toList, .bool false),
  ("NaN".toList, .float .nan), ("Infinity".toList, .float (.infinite false)),
  ("-Infinity".toList, .float (.infinite true))]

/-- Reads a word or a number. -/
def readScalar (cs : List Char) : Except Stop (Json × List Char) :=
  match words.find? fun (w, _) => Text.startsWith w cs with
  | some (w, v) => .ok (v, cs.drop w.length)
  | none => readNumber cs

mutual

/-- Reads a value with at most `room` containers around another. Every nested value
is at least one character further on, so the length of the text is fuel enough. -/
def readValue (room : Nat) : Nat → List Char → Except Stop (Json × List Char)
  | 0, cs => .error ⟨.expectingValue, cs⟩
  | fuel + 1, cs =>
    match cs with
    | '"' :: rest =>
      match readString cs cs.length rest [] with
      | .error stop => .error stop
      | .ok (s, after) => .ok (.str s, after)
    | '[' :: rest =>
      if room = 0 then .error ⟨.tooDeep false, cs⟩
      else
        match skipSpace rest with
        | ']' :: after => .ok (.arr [], after)
        | items =>
          match readItems (room - 1) fuel items [] with
          | .error stop => .error stop
          | .ok (xs, after) => .ok (.arr xs, after)
    | '\x7b' :: rest =>
      if room = 0 then .error ⟨.tooDeep true, cs⟩
      else
        match skipSpace rest with
        | '\x7d' :: after => .ok (.obj [], after)
        | members =>
          match readMembers (room - 1) fuel members [] with
          | .error stop => .error stop
          | .ok (ms, after) => .ok (.obj ms, after)
    | _ => readScalar cs

/-- Reads the items of an array up to its closing bracket. -/
def readItems (room : Nat) : Nat → List Char → List Json → Except Stop (List Json × List Char)
  | 0, cs, _ => .error ⟨.expectingValue, cs⟩
  | fuel + 1, cs, acc =>
    match readValue room fuel cs with
    | .error stop => .error stop
    | .ok (v, rest) =>
      match skipSpace rest with
      | ']' :: after => .ok ((v :: acc).reverse, after)
      | ',' :: more => readItems room fuel (skipSpace more) (v :: acc)
      | other => .error ⟨.expectingComma, other⟩

/-- Reads the members of an object up to its closing brace. -/
def readMembers (room : Nat) : Nat → List Char → Members → Except Stop (Members × List Char)
  | 0, cs, _ => .error ⟨.expectingName, cs⟩
  | fuel + 1, cs, acc =>
    match cs with
    | '"' :: rest =>
      match readString cs cs.length rest [] with
      | .error stop => .error stop
      | .ok (k, after) =>
        match skipSpace after with
        | ':' :: more =>
          match readValue room fuel (skipSpace more) with
          | .error stop => .error stop
          | .ok (v, rest) =>
            match skipSpace rest with
            | '\x7d' :: after => .ok (Members.set acc k v, after)
            | ',' :: more => readMembers room fuel (skipSpace more) (Members.set acc k v)
            | other => .error ⟨.expectingComma, other⟩
        | other => .error ⟨.expectingColon, other⟩
    | _ => .error ⟨.expectingName, cs⟩

end

/-- Arrays and objects are read up to this depth. -/
def maxDepth : Nat := 980

/-- Reads a whole text: one value of at most the given depth with blanks around it. -/
def readText (depth : Nat) (cs : List Char) : Except Stop Json :=
  match cs with
  | '\uFEFF' :: _ => .error ⟨.byteOrderMark, cs⟩
  | _ =>
    match readValue depth (2 * cs.length + 2) (skipSpace cs) with
    | .error stop => .error stop
    | .ok (v, rest) =>
      match skipSpace rest with
      | [] => .ok v
      | other => .error ⟨.extraData, other⟩

/-- A fault placed in a text. -/
structure ParseError where
  fault : Fault
  /-- The number of characters before the fault. -/
  offset : Nat
  line : Nat
  column : Nat
  deriving DecidableEq, Repr

/-- The place of a stop in the text it was met in. -/
def Stop.locate (text : List Char) (s : Stop) : ParseError :=
  let before := text.take (text.length - s.rest.length)
  ⟨s.fault, before.length, before.count '\n' + 1,
    (before.reverse.takeWhile (· != '\n')).length + 1⟩

/-- The value of at most the given depth that a text denotes. -/
def parseWithin (depth : Nat) (text : List Char) : Except ParseError Json :=
  match readText depth text with
  | .ok v => .ok v
  | .error stop => .error (stop.locate text)

/-- The value a text denotes. -/
def parse (text : List Char) : Except ParseError Json := parseWithin maxDepth text

def Fault.message : Fault → String
  | .expectingValue => "Expecting value"
  | .expectingName => "Expecting property name enclosed in double quotes"
  | .expectingColon => "Expecting ':' delimiter"
  | .expectingComma => "Expecting ',' delimiter"
  | .unterminatedString => "Unterminated string starting at"
  | .controlCharacter => "Invalid control character at"
  | .badEscape => "Invalid \\escape"
  | .badUnicodeEscape => "Invalid \\uXXXX escape"
  | .extraData => "Extra data"
  | .byteOrderMark => "Unexpected UTF-8 BOM (decode using utf-8-sig)"
  | .tooManyDigits n =>
    "Exceeds the limit (4300 digits) for integer string conversion: value has " ++
      Text.ofNat n ++ " digits; use sys.set_int_max_str_digits() to increase the limit"
  | .tooDeep isObject =>
    "maximum recursion depth exceeded while decoding a JSON " ++
      (if isObject then "object" else "array") ++ " from a unicode string"

/-- Whether the text is at fault, and not the size of a number or the depth. -/
def ParseError.isSyntactic (e : ParseError) : Bool :=
  match e.fault with
  | .tooManyDigits _ => false
  | .tooDeep _ => false
  | _ => true

def ParseError.message (e : ParseError) : String :=
  if e.isSyntactic then
    e.fault.message ++ ": line " ++ Text.ofNat e.line ++ " column " ++ Text.ofNat e.column ++
      " (char " ++ Text.ofNat e.offset ++ ")"
  else e.fault.message

end LspGateway.Json
