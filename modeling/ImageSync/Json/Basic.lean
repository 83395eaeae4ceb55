/-!
# JSON values

The values of the JSON data format. Numbers keep their spelling, so that reading and writing loses
no digit, and the fields of an object keep their order.

## Main definitions

* `Json`: a value.
* `Json.field? k v`: the field `k` of an object.
* `Json.text? v`, `Json.items? v`, `Json.nat? v`: the contents of a string, an array, a whole number.
-/

namespace ImageSync

/-- A JSON value. -/
inductive Json where
  | null
  | bool (b : Bool)
  | number (text : String)
  | string (text : String)
  | array (items : List Json)
  | object (fields : List (String × Json))
deriving Repr, Inhabited

namespace Json

/-- The field of that name, if the value is an object that has one. -/
def field? (key : String) : Json → Option Json
  | object fields => fields.lookup key
  | _ => none

/-- The characters of a string. -/
def text? : Json → Option String
  | string s => some s
  | _ => none

/-- The items of an array. -/
def items? : Json → Option (List Json)
  | array xs => some xs
  | _ => none

/-- The value of a number that is written with digits alone. -/
def nat? : Json → Option Nat
  | number t => if t.toList.all Char.isDigit then t.toNat? else none
  | _ => none

/-- The truth value. -/
def bool? : Json → Option Bool
  | bool b => some b
  | _ => none

/-- A whole number. -/
def nat (n : Nat) : Json := number (toString n)

end Json

end ImageSync
