import AngularClient.Text.Basic
import AngularClient.Text.Case
import AngularClient.Text.GraphicTable

namespace AngularClient.Text.Literal

def endsLine (c : Char) : Bool := c == '\n' || c == '\r' || c == '\u2028' || c == '\u2029'

def escape (c : Char) : List Char :=
  if c = '\\' then ['\\', '\\']
  else if c = '\x27' then ['\\', '\x27']
  else if c = '\n' then ['\\', 'n']
  else if c = '\r' then ['\\', 'r']
  else if c = '\t' then ['\\', 't']
  else if c = '\u2028' then ['\\', 'u', '2', '0', '2', '8']
  else if c = '\u2029' then ['\\', 'u', '2', '0', '2', '9']
  else [c]

def write (s : List Char) : List Char := '\x27' :: s.flatMap escape ++ ['\x27']

def readBody : List Char → Option (List Char × List Char)
  | [] => none
  | '\\' :: 'u' :: a :: b :: c :: d :: rest => do
    let code ← hexNumber [a, b, c, d]
    guard code.isValidChar
    let (s, rest) ← readBody rest
    return (Char.ofNat code :: s, rest)
  | '\\' :: c :: rest => do
    let value ← match c with
      | '\\' => some '\\'
      | '\x27' => some '\x27'
      | 'n' => some '\n'
      | 'r' => some '\r'
      | 't' => some '\t'
      | _ => none
    let (s, rest) ← readBody rest
    return (value :: s, rest)
  | c :: rest =>
    if c = '\x27' then some ([], rest)
    else if c = '\\' || endsLine c then none
    else do
      let (s, rest) ← readBody rest
      return (c :: s, rest)

def read : List Char → Option (List Char × List Char)
  | [] => none
  | c :: rest => if c = '\x27' then readBody rest else none

end AngularClient.Text.Literal

namespace AngularClient.Text

def literal (s : String) : String := String.ofList (Literal.write s.toList)

def keepOpen : List Char → List Char
  | '*' :: '/' :: rest => '*' :: '\\' :: '/' :: keepOpen rest
  | c :: rest => c :: keepOpen rest
  | [] => []

def commentLine (s : String) : String := String.ofList (keepOpen s.toList)

def commentLines (s : String) : List String :=
  (lines s.toList).map fun line => String.ofList (keepOpen line)

def quotedChar (c : Char) : List Char :=
  if c = '\x00' then ['\\', '0']
  else if c = '\t' then ['\\', 't']
  else if c = '\n' then ['\\', 'n']
  else if c = '\r' then ['\\', 'r']
  else if c = '\x22' then ['\\', c]
  else if c = '\\' then ['\\', c]
  else if c.toNat < 0x20 || c.toNat == 0x7F || inRanges glyphless c then
    ['\\', 'u', '\x7b'] ++ hexDigits c.toNat ++ ['\x7d']
  else [c]

def quoted (name : String) : String :=
  String.ofList ('\x22' :: name.toList.flatMap quotedChar ++ ['\x22'])

end AngularClient.Text
