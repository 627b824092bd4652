import CrateGuard.Json.Token

/-! Reading JSON. The lexemes drive a machine whose stack holds the lists and objects that are still
open; the first lexeme that the machine does not admit ends the reading, and so does a whole number
that is too long or a value nested too deep. Of fields of one name the last one counts.

Each list and object that is open takes a call, and so do the readers that the text goes through on
its way. No more than a certain number of calls can be under way at once, so how deep a text may be
nested depends on who reads it. -/

namespace CrateGuard.Json

/-- The calls that are left to a reader and to what it reads when the reader is called. -/
def callLimit : Nat := 991

/-- The deepest nesting of lists and objects that is read within the given number of calls. -/
def levelsWithin (calls : Nat) : Nat := callLimit - calls

/-- A place in a text: its line and column from one and its offset from zero, in code points. -/
structure Position where
  line : Nat
  column : Nat
  offset : Nat
  deriving DecidableEq, Repr

inductive ReadFault
  | malformed (problem : Problem) (position : Position)
  | longNumeral (digits : Nat)
  | tooDeep (inObject : Bool)
  deriving DecidableEq, Repr

def Problem.message : Problem → String
  | .byteOrderMark => "Unexpected UTF-8 BOM (decode using utf-8-sig)"
  | .noValue => "Expecting value"
  | .noName => "Expecting property name enclosed in double quotes"
  | .noColon => "Expecting ':' delimiter"
  | .noComma => "Expecting ',' delimiter"
  | .extraData => "Extra data"
  | .openString => "Unterminated string starting at"
  | .controlCharacter => "Invalid control character at"
  | .badEscape => "Invalid \\escape"
  | .badUnicodeEscape => "Invalid \\uXXXX escape"

def ReadFault.message : ReadFault → String
  | .malformed problem p =>
    s!"{problem.message}: line {p.line} column {p.column} (char {p.offset})"
  | .longNumeral digits => (Text.NumeralFault.tooLong digits).message
  | .tooDeep inObject =>
    "maximum recursion depth exceeded while decoding a JSON " ++
      (if inObject then "object" else "array") ++ " from a unicode string"

/-- A list or an object that is still open; the items of a list come last first. -/
inductive Frame
  | list (items : List Json)
  | object (fields : Fields) (name : Text)

/-- What the machine waits for, inside the open lists and objects. -/
inductive Machine
  | value (outer : List Frame)
  | firstItem (outer : List Frame)
  | afterItem (items : List Json) (outer : List Frame)
  | firstName (outer : List Frame)
  | nextName (fields : Fields) (outer : List Frame)
  | afterName (fields : Fields) (name : Text) (outer : List Frame)
  | afterField (fields : Fields) (outer : List Frame)
  | finished (value : Json)

inductive Stop
  | problem (what : Problem) (rest : Text)
  | longNumeral (digits : Nat)
  | tooDeep (inObject : Bool)

namespace Machine

def complete (v : Json) : List Frame → Machine
  | [] => .finished v
  | .list items :: outer => .afterItem (v :: items) outer
  | .object fields name :: outer => .afterField (setField name v fields) outer

variable (limit : Nat)

def enter (inObject : Bool) (outer : List Frame) : Except Stop Machine :=
  if limit ≤ outer.length then .error (.tooDeep inObject)
  else .ok (if inObject then .firstName outer else .firstItem outer)

def startValue (outer : List Frame) (lexeme : Placed) : Except Stop Machine :=
  match lexeme.token with
  | .string s => .ok (complete (.str s) outer)
  | .plain v => .ok (complete v outer)
  | .openList => enter limit false outer
  | .openObject => enter limit true outer
  | .badString what place => .error (.problem what place)
  | .longNumeral digits => .error (.longNumeral digits)
  | _ => .error (.problem .noValue lexeme.rest)

def startName (fields : Fields) (outer : List Frame) (lexeme : Placed) : Except Stop Machine :=
  match lexeme.token with
  | .string name => .ok (.afterName fields name outer)
  | .badString what place => .error (.problem what place)
  | _ => .error (.problem .noName lexeme.rest)

def step (m : Machine) (lexeme : Placed) : Except Stop Machine :=
  match m, lexeme.token with
  | .value outer, _ => startValue limit outer lexeme
  | .firstItem outer, .closeList => .ok (complete (.arr []) outer)
  | .firstItem outer, _ => startValue limit (.list [] :: outer) lexeme
  | .afterItem items outer, .comma => .ok (.value (.list items :: outer))
  | .afterItem items outer, .closeList => .ok (complete (.arr items.reverse) outer)
  | .afterItem .., _ => .error (.problem .noComma lexeme.rest)
  | .firstName outer, .closeObject => .ok (complete (.obj []) outer)
  | .firstName outer, _ => startName [] outer lexeme
  | .nextName fields outer, _ => startName fields outer lexeme
  | .afterName fields name outer, .colon => .ok (.value (.object fields name :: outer))
  | .afterName .., _ => .error (.problem .noColon lexeme.rest)
  | .afterField fields outer, .comma => .ok (.nextName fields outer)
  | .afterField fields outer, .closeObject => .ok (complete (.obj fields) outer)
  | .afterField .., _ => .error (.problem .noComma lexeme.rest)
  | .finished _, _ => .error (.problem .extraData lexeme.rest)

def finish : Machine → Except Stop Json
  | .finished v => .ok v
  | .value _ | .firstItem _ => .error (.problem .noValue [])
  | .firstName _ | .nextName .. => .error (.problem .noName [])
  | .afterName .. => .error (.problem .noColon [])
  | .afterItem .. | .afterField .. => .error (.problem .noComma [])

def run (m : Machine) : List Placed → Except Stop Json
  | [] => m.finish
  | lexeme :: lexemes =>
    match m.step limit lexeme with
    | .ok next => next.run lexemes
    | .error stop => .error stop

end Machine

def readUpTo (limit : Nat) (s : Text) : Except Stop Json :=
  match s with
  | .char '\uFEFF' :: _ => .error (.problem .byteOrderMark s)
  | _ => Machine.run limit (.value []) (lexemes s)

def positionOf (s rest : Text) : Position :=
  let before := s.take (s.length - rest.length)
  let column := 1 + (before.reverse.takeWhile (· != CodePoint.char '\n')).length
  ⟨1 + before.count (.char '\n'), column, before.length⟩

def Stop.fault (s : Text) : Stop → ReadFault
  | .problem what rest => .malformed what (positionOf s rest)
  | .longNumeral digits => .longNumeral digits
  | .tooDeep inObject => .tooDeep inObject

def read (limit : Nat) (s : Text) : Except ReadFault Json :=
  (readUpTo limit s).mapError (Stop.fault s)

end CrateGuard.Json
