import CrateGuard.Decimal.Binary64

/-! JSON values. Whole numbers and floating-point numbers are kept apart, and the fields of an
object keep the order in which their names first came. A value counts as filled unless it is null,
false, a zero, or an empty text, list or object. -/

namespace CrateGuard

inductive Json
  | null
  | bool (b : Bool)
  | int (n : Int)
  | float (x : Binary64)
  | str (s : Text)
  | arr (items : List Json)
  | obj (fields : List (Text × Json))
  deriving Inhabited, Repr

namespace Json

abbrev Fields := List (Text × Json)

def field? (fields : Fields) (name : Text) : Option Json :=
  (fields.find? fun entry => entry.1 == name).map (·.2)

def field (fields : Fields) (name : Text) : Json :=
  (field? fields name).getD .null

/-- Sets a field: in its place if the object has it, else at the end. -/
def setField (name : Text) (value : Json) : Fields → Fields
  | [] => [(name, value)]
  | entry :: rest =>
    if entry.1 = name then (name, value) :: rest else entry :: setField name value rest

/-- Neither null, false, a zero, nor empty. -/
def filled : Json → Bool
  | .null => false
  | .bool b => b
  | .int n => n != 0
  | .float x => !x.isZero
  | .str s => !s.isEmpty
  | .arr items => !items.isEmpty
  | .obj fields => !fields.isEmpty

/-- The value itself when it is filled, else the other one. -/
def orElse (value other : Json) : Json :=
  if value.filled then value else other

def kindName : Json → String
  | .null => "NoneType"
  | .bool _ => "bool"
  | .int _ => "int"
  | .float _ => "float"
  | .str _ => "str"
  | .arr _ => "list"
  | .obj _ => "dict"

/-- Lists and objects cannot be members of a set or names in a map. -/
def hashable : Json → Bool
  | .arr _ | .obj _ => false
  | _ => true

def whole? : Json → Option Int
  | .bool b => some (if b then 1 else 0)
  | .int n => some n
  | _ => none

/-- Sameness of values that are neither lists nor objects. Numbers and truth values are the same
when their values are. -/
def sameScalar : Json → Json → Bool
  | .null, .null => true
  | .str s, .str t => s == t
  | .float x, .float y => x.same y
  | .float x, b => b.whole?.isSome && x.integer? == b.whole?
  | a, .float y => a.whole?.isSome && y.integer? == a.whole?
  | a, b => a.whole?.isSome && a.whole? == b.whole?

mutual

/-- Sameness of values: lists are the same item by item, objects field by field in any order. -/
def same : Json → Json → Bool
  | .arr xs, .arr ys => sameItems xs ys
  | .obj xs, .obj ys => xs.length == ys.length && sameFields xs ys
  | a, b => sameScalar a b

def sameItems : List Json → List Json → Bool
  | [], [] => true
  | x :: xs, y :: ys => same x y && sameItems xs ys
  | _, _ => false

def sameFields : List (Text × Json) → List (Text × Json) → Bool
  | [], _ => true
  | (name, x) :: xs, ys =>
    (match field? ys name with
      | some y => same x y
      | none => false) && sameFields xs ys

end

/-- Equality of values, which only what is not a number lacks with itself. -/
def equals (a b : Json) : Bool :=
  match a with
  | .float .nan => false
  | _ => a.same b

/-- Reads the items of a list from an index on, each given with its own. The first item that is
refused ends the reading. -/
def readEach {ε α : Type} (read : Nat → Json → Except ε α) (index : Nat) :
    List Json → Except ε (List α)
  | [] => .ok []
  | raw :: rest => do
    let first ← read index raw
    let later ← readEach read (index + 1) rest
    return first :: later

end Json

end CrateGuard
