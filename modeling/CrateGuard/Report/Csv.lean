import CrateGuard.Report.Table
import CrateGuard.Text.Encoded
import CrateGuard.Text.Separated

/-! Tables as comma-separated values. Every record ends with a line feed. A field that holds a
comma, a double quote or a line feed is enclosed in double quotes, and those inside it are doubled.
A writer may quote a field for other code points too, as some do for a carriage return. A file
receives record after record, up to the first one without a UTF-8 form. -/

namespace CrateGuard.Csv

/-- A code point for which a field has to be quoted. -/
def needsQuotes (c : CodePoint) : Bool :=
  c == ',' || c == '"' || c == '\n'

def quotedPoint (c : CodePoint) : Text :=
  if c = '"' then ['"', '"'] else [c]

section
variable (quotesToo : CodePoint → Bool)

def field (s : Text) : Text :=
  if s.any fun c => needsQuotes c || quotesToo c then
    .char '"' :: s.flatMap quotedPoint ++ [.char '"']
  else s

def record (cells : List Text) : Text :=
  Text.join ',' (cells.map (field quotesToo)) ++ "\n"

def records (rows : List TableRow) : List Text :=
  (TableRow.columns :: rows.map TableRow.cells).map (record quotesToo)

def write (rows : List TableRow) : Text :=
  (records quotesToo rows).flatten

/-- The bytes of a table up to the first record without a UTF-8 form. -/
def bytes (rows : List TableRow) : ByteArray :=
  let written := (records quotesToo rows).takeWhile fun line => line.bytes?.isSome
  (Text.bytes? written.flatten).getD ByteArray.empty

end

def isEncodable (rows : List TableRow) : Bool :=
  rows.all fun row => row.cells.all fun cell => cell.bytes?.isSome

end CrateGuard.Csv
