import MessageRepeater.Foundation.Bytes

/-!
# JSON values

What the configuration loader uses of `Json::Value` in `src/json/json.cpp`. Its exceptions are
`Except.error` with their texts.
-/

namespace MessageRepeater.Json
open Foundation

/-- A double has an exact value, `none` if it is infinite, and the text that `valueToString` gives it.
The members of an object are listed in the order of its map. -/
inductive Value where
  | null
  | int (value : Int)
  | uint (value : Nat)
  | real (value : Option Rat) (text : Bytes)
  | string (text : Bytes)
  | boolean (value : Bool)
  | array (elements : List Value)
  | object (members : List (Bytes × Value))

namespace Value

def minInt : Int := -2 ^ 31
def maxInt : Int := 2 ^ 31 - 1

def asString : Value → Except Bytes Bytes
  | null => .ok []
  | string text => .ok text
  | boolean value => .ok (if value then ascii "true" else ascii "false")
  | int value => .ok (ascii (toString value))
  | uint value => .ok (ascii (toString value))
  | real _ text => .ok text
  | array _ | object _ => .error (ascii "Type is not convertible to string")

/-- A double converted to an integer type whose range it is in. -/
def truncate (low high : Int) (what : Bytes) : Option Rat → Except Bytes Int
  | some value =>
    if (low : Rat) ≤ value ∧ value ≤ (high : Rat) then .ok (value.num.tdiv value.den) else .error what
  | none => .error what

def asInt : Value → Except Bytes Int
  | int value =>
    if minInt ≤ value ∧ value ≤ maxInt then .ok value
    else .error (ascii "LargestInt out of Int range")
  | uint value =>
    if (value : Int) ≤ maxInt then .ok value else .error (ascii "LargestUInt out of Int range")
  | real value _ => truncate minInt maxInt (ascii "double out of Int range") value
  | null => .ok 0
  | boolean value => .ok (if value then 1 else 0)
  | _ => .error (ascii "Value is not convertible to Int.")

/-- The largest 64-bit integer is rounded up when it is compared with a double. -/
def asInt64 : Value → Except Bytes Int
  | int value => .ok value
  | uint value =>
    if value < 2 ^ 63 then .ok value else .error (ascii "LargestUInt out of Int64 range")
  | real value _ => truncate (-2 ^ 63) (2 ^ 63) (ascii "double out of Int64 range") value
  | null => .ok 0
  | boolean value => .ok (if value then 1 else 0)
  | _ => .error (ascii "Value is not convertible to Int64.")

def asBool : Value → Except Bytes Bool
  | boolean value => .ok value
  | null => .ok false
  | int value => .ok (value != 0)
  | uint value => .ok (value != 0)
  | real value _ => .ok (value != some 0)
  | _ => .error (ascii "Value is not convertible to bool.")

/-- `value[key]`: a member that is not there is null. -/
def member (key : Bytes) : Value → Except Bytes Value
  | null => .ok null
  | object members => .ok ((members.lookup key).getD null)
  | _ => .error (ascii "in Json::Value::resolveReference(key, end): requires objectValue")

def isMember (key : Bytes) : Value → Except Bytes Bool
  | null => .ok false
  | object members => .ok (members.lookup key).isSome
  | _ => .error (ascii "in Json::Value::find(key, end, found): requires objectValue or nullValue")

/-- What a `for` over the value goes through. -/
def elements : Value → List Value
  | array elements => elements
  | object members => members.map Prod.snd
  | _ => []

/-- The strings of an array member. -/
def texts (key : Bytes) (value : Value) : Except Bytes (List Bytes) := do
  (← value.member key).elements.mapM asString

end Value

end MessageRepeater.Json
