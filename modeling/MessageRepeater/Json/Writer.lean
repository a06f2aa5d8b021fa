import MessageRepeater.Json.QuotedStrings
import MessageRepeater.Json.Value

/-!
# The JSON writer

`writeString` of `src/json/json.cpp` with the settings that a `StreamWriterBuilder` has by default: every
array and object that is not empty takes several lines, indented by tabs. It would write the comments of a
value as well, and they are left out: the values that the program writes are its own and have none.
-/

namespace MessageRepeater.Json
open Foundation

/-- `writeWithIndent`: `indented` tells that the line has been indented already. -/
def writeWithIndent (indentString : Bytes) (indented : Bool) (text : Bytes) : Bytes :=
  if indented then text else 10 :: indentString ++ text

/-- The tab of `indentation_`. -/
def indent (indentString : Bytes) : Bytes := indentString ++ [9]

mutual

/-- `indented` is the flag `indented_` where the value starts. It is false behind whatever has been written
with an indent. -/
def writeValue (indentString : Bytes) (indented : Bool) : Value → Bytes
  | .null => ascii "null"
  | .int value => ascii (toString value)
  | .uint value => ascii (toString value)
  | .real _ text => text
  | .string text => valueToQuotedStringN text
  | .boolean value => if value then ascii "true" else ascii "false"
  | .array elements =>
    if elements.isEmpty then ascii "[]"
    else
      writeWithIndent indentString indented [91] ++ writeElements (indent indentString) elements ++
        writeWithIndent indentString false [93]
  | .object members =>
    if members.isEmpty then [123, 125]
    else
      writeWithIndent indentString indented [123] ++ writeMembers (indent indentString) members ++
        writeWithIndent indentString false [125]

def writeElements (indentString : Bytes) : List Value → Bytes
  | [] => []
  | element :: elements =>
    writeWithIndent indentString false [] ++ writeValue indentString true element ++
      (if elements.isEmpty then [] else [44]) ++ writeElements indentString elements

def writeMembers (indentString : Bytes) : List (Bytes × Value) → Bytes
  | [] => []
  | (name, value) :: members =>
    writeWithIndent indentString false (valueToQuotedStringN name) ++ ascii " : " ++
      writeValue indentString false value ++ (if members.isEmpty then [] else [44]) ++
      writeMembers indentString members

end

/-- The text of a value without comments. -/
def writeString (root : Value) : Bytes := writeValue [] true root

end MessageRepeater.Json
