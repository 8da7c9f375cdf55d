import Mailroom.Number.Shortest
import Mailroom.Text.Quoted

/-!
# JSON values

* `Json`         a value; numbers with a point or an exponent are binary fractions;
* `Json.shown`   the text of a value: a text stands for itself, and inside lists and objects in quotes;
* `Json.put`     a field of an object; a name that occurs twice keeps its first place and its last value;
* `Json.gathered`  the fields of an object, put one behind the other.
-/

namespace Mailroom

/-- a JSON value -/
inductive Json where
  | null
  | bool (b : Bool)
  | whole (n : Int)
  /-- a fraction by its sign and its steps -/
  | fraction (negative : Bool) (steps : Nat)
  | notANumber
  | text (s : Text)
  | list (values : List Json)
  | object (fields : List (Text × Json))

namespace Json

mutual

/-- the text of a value inside a list or an object -/
def inner : Json → Text
  | null => "None"
  | bool true => "True"
  | bool false => "False"
  | whole n => Text.decimalInt n
  | fraction negative steps => (if negative then ['-'] else []) ++ Binary.text steps
  | notANumber => "nan"
  | text s => Text.quoted s
  | list vs => '[' :: [',', ' '].intercalate (innerAll vs) ++ [']']
  | object fs => '\x7b' :: [',', ' '].intercalate (innerFields fs) ++ ['\x7d']

/-- the texts of values -/
def innerAll : List Json → List Text
  | [] => []
  | v :: vs => inner v :: innerAll vs

/-- the texts of fields -/
def innerFields : List (Text × Json) → List Text
  | [] => []
  | (k, v) :: fs => (Text.quoted k ++ ": " ++ inner v) :: innerFields fs

end

/-- the text of a value -/
def shown : Json → Text
  | text s => s
  | v => inner v

/-- the kind of a value in messages -/
def kindName : Json → Text
  | null => "NoneType"
  | bool _ => "bool"
  | whole _ => "int"
  | fraction _ _ | notANumber => "float"
  | text _ => "str"
  | list _ => "list"
  | object _ => "dict"

/-- fields with another one -/
def put (name : Text) (value : Json) : List (Text × Json) → List (Text × Json)
  | [] => [(name, value)]
  | f :: fs => if f.1 = name then (name, value) :: fs else f :: put name value fs

/-- the fields of an object that was given these in order -/
def gathered (fs : List (Text × Json)) : List (Text × Json) :=
  fs.foldl (fun before f => put f.1 f.2 before) []

end Json
end Mailroom
