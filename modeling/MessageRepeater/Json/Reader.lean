import MessageRepeater.Json.QuotedStrings
import MessageRepeater.Json.Value

/-!
# The JSON reader

`Json::Reader` of `src/json/json.cpp` with the features it has by default: comments are skipped, a root
may be any value. A position is what follows it. Of a reading that fails the value is kept as it has come
about. Left out are the reader's errors and offsets, the comments that it attaches to the values, so that a
value here is the library's only up to its comments, and `recoverFromError`, which moves the position only. A
double that `>>` reads is a parameter.
-/

namespace MessageRepeater.Json
open Foundation

/-! ### Tokens -/

inductive TokenType where
  | endOfStream | objectBegin | objectEnd | arrayBegin | arrayEnd | string | number | true | false | null
  | arraySeparator | memberSeparator | comment | error
  deriving DecidableEq, Repr, Inhabited

/-- `text` is a number, or what stands between the quotes of a string. -/
structure Token where
  type : TokenType
  text : Bytes := []
  rest : Bytes
  deriving DecidableEq, Repr, Inhabited

def isSpace (c : UInt8) : Bool := c == 32 || c == 9 || c == 13 || c == 10
def isDigit (c : UInt8) : Bool := 48 ≤ c && c ≤ 57

def skipSpaces (text : Bytes) : Bytes := text.dropWhile isSpace

/-- `match`: what follows the pattern. -/
def matchText (pattern text : Bytes) : Option Bytes :=
  if pattern.isPrefixOf text then some (text.drop pattern.length) else none

/-- The loop needs two more bytes. At the last one a slash ends the comment. -/
def readCStyleComment : Bytes → Bool × Bytes
  | [] => (false, [])
  | [c] => (c == 47, [])
  | c :: d :: rest => if c = 42 ∧ d = 47 then (true, rest) else readCStyleComment (d :: rest)

def readCppStyleComment : Bytes → Bytes
  | [] => []
  | c :: rest =>
    if c = 10 then rest
    else if c = 13 then if rest.head? = some 10 then rest.tail else rest
    else readCppStyleComment rest

/-- What follows the slash. -/
def readComment : Bytes → Bool × Bytes
  | [] => (false, [])
  | c :: rest =>
    if c = 42 then readCStyleComment rest
    else if c = 47 then (true, readCppStyleComment rest)
    else (false, rest)

def skipFraction (text : Bytes) : Bytes :=
  if text.head? = some 46 then text.tail.dropWhile isDigit else text

def skipSign (text : Bytes) : Bytes :=
  if text.head? = some 43 ∨ text.head? = some 45 then text.tail else text

def skipExponent (text : Bytes) : Bytes :=
  if text.head? = some 101 ∨ text.head? = some 69 then (skipSign text.tail).dropWhile isDigit else text

/-- What follows a number, behind its first character. -/
def readNumber (text : Bytes) : Bytes := skipExponent (skipFraction (text.dropWhile isDigit))

def literalToken (type : TokenType) (pattern text : Bytes) : Token :=
  match matchText pattern text with
  | some rest => { type, rest }
  | none => { type := .error, rest := text }

/-- A token by its first character. -/
def tokenAt (c : UInt8) (rest : Bytes) : Token :=
  if c = 123 then { type := .objectBegin, rest }
  else if c = 125 then { type := .objectEnd, rest }
  else if c = 91 then { type := .arrayBegin, rest }
  else if c = 93 then { type := .arrayEnd, rest }
  else if c = 34 then
    match readString rest with
    | some (chars, rest) => { type := .string, text := chars, rest }
    | none => { type := .error, rest := [] }
  else if c = 47 then
    { type := if (readComment rest).1 then .comment else .error, rest := (readComment rest).2 }
  else if isDigit c ∨ c = 45 then
    { type := .number, text := c :: rest.take (rest.length - (readNumber rest).length), rest := readNumber rest }
  else if c = 116 then literalToken .true (ascii "rue") rest
  else if c = 102 then literalToken .false (ascii "alse") rest
  else if c = 110 then literalToken .null (ascii "ull") rest
  else if c = 44 then { type := .arraySeparator, rest }
  else if c = 58 then { type := .memberSeparator, rest }
  else if c = 0 then { type := .endOfStream, rest }
  else { type := .error, rest }

def readToken (text : Bytes) : Token :=
  match skipSpaces text with
  | [] => { type := .endOfStream, rest := [] }
  | c :: rest => tokenAt c rest

def commentTurn (text : Bytes) : Bytes ⊕ Token :=
  if (readToken text).type = .comment then .inl (readToken text).rest else .inr (readToken text)

def skipCommentTokens (text : Bytes) : Token := loop List.length commentTurn text

/-! ### Numbers -/

/-- The digits of a number, `none` where it is left to `decodeDouble`. -/
def decodeDigits (maxIntegerValue : Nat) : Nat → Bytes → Option Nat
  | value, [] => some value
  | value, c :: rest =>
    if ¬ isDigit c then none
    else
      let digit := c.toNat - 48
      if value ≥ maxIntegerValue / 10 ∧
          (value > maxIntegerValue / 10 ∨ rest ≠ [] ∨ digit > maxIntegerValue % 10) then none
      else decodeDigits maxIntegerValue (value * 10 + digit) rest

/-- Reads a double and gives the text that `valueToString` makes of it. -/
abbrev ReadDouble := Bytes → Option (Option Rat × Bytes)

def decodeDouble (readDouble : ReadDouble) (text : Bytes) : Option Value :=
  (readDouble text).map fun (value, text) => .real value text

def decodeNumber (readDouble : ReadDouble) (text : Bytes) : Option Value :=
  if text.head? = some 45 then
    match decodeDigits (2 ^ 63) 0 text.tail with
    | some value => some (.int (-value))
    | none => decodeDouble readDouble text
  else
    match decodeDigits (2 ^ 64 - 1) 0 text with
    | some value => some (if (value : Int) ≤ Value.maxInt then .int value else .uint value)
    | none => decodeDouble readDouble text

/-! ### Arrays and objects -/

/-- The value that a reading leaves in its slot, and what follows it if it has succeeded. -/
abbrev Reading (Slot : Type) := Except Bytes (Slot × Option Bytes)

/-- The value read into a slot. -/
abbrev ReadValue := Bytes → Value → Reading Value

def elementTurn (read : ReadValue) : List Value × Bytes → List Value × Bytes ⊕ Reading (List Value)
  | (elements, text) =>
    match read text .null with
    | .error what => .inr (.error what)
    | .ok (value, none) => .inr (.ok (elements ++ [value], none))
    | .ok (value, some rest) =>
      let token := skipCommentTokens rest
      if token.type = .arraySeparator then .inl (elements ++ [value], token.rest)
      else if token.type = .arrayEnd then .inr (.ok (elements ++ [value], some token.rest))
      else .inr (.ok (elements ++ [value], none))

def readArray (read : ReadValue) (text : Bytes) : Reading (List Value) :=
  if (skipSpaces text).head? = some 93 then .ok ([], some (readToken text).rest)
  else loop (fun s => s.2.length) (elementTurn read) ([], text)

/-- `operator[]` of an object makes room for a member, in the order of the names. -/
def insertMember (name : Bytes) (value : Value) : List (Bytes × Value) → List (Bytes × Value)
  | [] => [(name, value)]
  | (name', value') :: members =>
    if name = name' then (name, value) :: members
    else if name < name' then (name, value) :: (name', value') :: members
    else (name', value') :: insertMember name value members

structure ObjectState where
  members : List (Bytes × Value) := []
  /-- The name of the last member. -/
  name : Bytes := []
  text : Bytes

/-- The end of an object counts only behind an empty name. A comment behind a member makes a separator of
whatever token follows it. -/
def memberTurn (read : ReadValue) (s : ObjectState) : ObjectState ⊕ Reading (List (Bytes × Value)) :=
  let tokenName := skipCommentTokens s.text
  if tokenName.type = .objectEnd ∧ s.name = [] then .inr (.ok (s.members, some tokenName.rest))
  else if tokenName.type = .string then
    match decodeString tokenName.text with
    | none => .inr (.ok (s.members, none))
    | some name =>
      let colon := readToken tokenName.rest
      if colon.type = .memberSeparator then
        match read colon.rest ((s.members.lookup name).getD .null) with
        | .error what => .inr (.error what)
        | .ok (value, none) => .inr (.ok (insertMember name value s.members, none))
        | .ok (value, some rest) =>
          let members := insertMember name value s.members
          let comma := readToken rest
          if comma.type = .objectEnd then .inr (.ok (members, some comma.rest))
          else if comma.type = .arraySeparator then .inl { members, name, text := comma.rest }
          else if comma.type = .comment then
            let after := skipCommentTokens comma.rest
            if after.type = .objectEnd then .inr (.ok (members, some after.rest))
            else .inl { members, name, text := after.rest }
          else .inr (.ok (members, none))
      else .inr (.ok (s.members, none))
  else .inr (.ok (s.members, none))

def readObject (read : ReadValue) (text : Bytes) : Reading (List (Bytes × Value)) :=
  loop (fun s => s.text.length) (memberTurn read) { text }

/-! ### Values -/

def stackLimit : Nat := 1000

/-- What `readValue` throws. -/
def exceededStackLimit : Bytes := ascii "Exceeded stackLimit in readValue()."

/-- A value with room for that many levels of nesting. -/
def readValue (readDouble : ReadDouble) : Nat → ReadValue
  | 0, _, _ => .error exceededStackLimit
  | levels + 1, text, slot =>
    let token := skipCommentTokens text
    match token.type with
    | .objectBegin =>
      (readObject (readValue readDouble levels) token.rest).map fun (members, rest) =>
        (.object members, rest)
    | .arrayBegin =>
      (readArray (readValue readDouble levels) token.rest).map fun (elements, rest) =>
        (.array elements, rest)
    | .number =>
      match decodeNumber readDouble token.text with
      | some value => .ok (value, some token.rest)
      | none => .ok (slot, none)
    | .string =>
      match decodeString token.text with
      | some text => .ok (.string text, some token.rest)
      | none => .ok (slot, none)
    | .true => .ok (.boolean true, some token.rest)
    | .false => .ok (.boolean false, some token.rest)
    | .null => .ok (.null, some token.rest)
    | _ => .ok (slot, none)

/-- The root as `parse` leaves it, less its comments, and what it returns. -/
def parse (readDouble : ReadDouble) (document : Bytes) (root : Value) : Except Bytes (Value × Bool) :=
  (readValue readDouble stackLimit document root).map fun (value, rest) => (value, rest.isSome)

end MessageRepeater.Json
