import AngularClient.Binary64
import AngularClient.Dictionary

namespace AngularClient

inductive Number
  | int (n : Int)
  | double (x : Binary64)
  deriving DecidableEq

inductive Json
  | null
  | bool (b : Bool)
  | number (n : Number)
  | string (s : String)
  | array (items : List Json)
  | object (members : List (String × Json))

namespace Json

def str? : Json → Option String
  | .string s => some s
  | _ => none

def member? (key : String) : Json → Option Json
  | .object members => Dictionary.find? members key
  | _ => none

def ofMembers (members : List (String × Json)) : Json := .object (Dictionary.ofList members)

def optional : Option String → Json
  | some s => .string s
  | none => .null

def strings (l : List String) : Json := .array (l.map .string)

end Json

namespace Number

def write (format : DecimalFormat) : Number → List Char
  | .int n => (if n < 0 then ['-'] else []) ++ Nat.toDigits 10 n.natAbs
  | .double x => format.write x

end Number

namespace Json

def escape (c : Char) : List Char :=
  if c = '\x22' then ['\\', c]
  else if c = '\\' then ['\\', c]
  else if c = '\x08' then ['\\', 'b']
  else if c = '\x0c' then ['\\', 'f']
  else if c = '\n' then ['\\', 'n']
  else if c = '\r' then ['\\', 'r']
  else if c = '\t' then ['\\', 't']
  else if c.toNat < 0x20 then
    ['\\', 'u', '0', '0', Nat.digitChar (c.toNat / 16), Nat.digitChar (c.toNat % 16)]
  else [c]

def writeString (s : String) : List Char := '\x22' :: s.toList.flatMap escape ++ ['\x22']

mutual

def write : Json → List Char
  | .null => ['n', 'u', 'l', 'l']
  | .bool true => ['t', 'r', 'u', 'e']
  | .bool false => ['f', 'a', 'l', 's', 'e']
  | .number n => n.write .json
  | .string s => writeString s
  | .array items => '[' :: writeItems items ++ [']']
  | .object members => '\x7b' :: writeMembers members ++ ['\x7d']

def writeItems : List Json → List Char
  | [] => []
  | [j] => write j
  | j :: rest => write j ++ ',' :: writeItems rest

def writeMembers : List (String × Json) → List Char
  | [] => []
  | [(k, j)] => writeString k ++ ':' :: write j
  | (k, j) :: rest => writeString k ++ ':' :: write j ++ ',' :: writeMembers rest

end

def compress (j : Json) : String := String.ofList j.write

end Json

end AngularClient
