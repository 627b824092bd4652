import CrateGuard.Decimal.Shortest
import CrateGuard.Json.Value
import CrateGuard.Text.Quoted

/-! The text of a value in messages and tables. A text shows itself; inside lists and objects, and
wherever a message quotes a value, texts are quoted. -/

namespace CrateGuard.Json

mutual

def literal : Json → Text
  | .null => "None"
  | .bool b => if b then "True" else "False"
  | .int n => (toString n : String)
  | .float x => x.text
  | .str s => Text.quoted s
  | .arr items => "[" ++ literalItems items ++ "]"
  | .obj fields => "\x7b" ++ literalFields fields ++ "\x7d"

def literalItems : List Json → Text
  | [] => ""
  | [item] => item.literal
  | item :: items => item.literal ++ ", " ++ literalItems items

def literalFields : List (Text × Json) → Text
  | [] => ""
  | [(name, value)] => Text.quoted name ++ ": " ++ value.literal
  | (name, value) :: fields =>
    Text.quoted name ++ ": " ++ value.literal ++ ", " ++ literalFields fields

end

def text : Json → Text
  | .str s => s
  | value => value.literal

end CrateGuard.Json
