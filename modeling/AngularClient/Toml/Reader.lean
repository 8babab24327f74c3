import AngularClient.Toml.Basic
import AngularClient.Toml.Moment
import AngularClient.Toml.Scalar
import AngularClient.Toml.Scan
import AngularClient.Toml.Table

/-! Values as a document spells them, with the entries of each table in the order of the document,
and what they stand for: a table whose first entry is tagged is a moment. -/

namespace AngularClient.Toml

def momentTag : String := "$__toml_private_datetime"

mutual

/-- The value that a spelled one stands for, if any: the text under a moment's tag must spell a
moment, and what comes after that does not matter. -/
def untag? : Toml → Option Toml
  | .array items => return .array (← untagItems? items)
  | .table entries =>
    match entries with
    | [] => some (.table [])
    | (key, value) :: rest =>
      if key = momentTag then do
        let spelling ← Moment.ofWord? .quoted (← value.str?).toList
        return .moment (String.ofList spelling)
      else do
        let first ← untag? value
        return .table (Dictionary.ofList ((key, first) :: (← untagEntries? rest)))
  | t => some t

def untagItems? : List Toml → Option (List Toml)
  | [] => some []
  | t :: rest => return (← untag? t) :: (← untagItems? rest)

def untagEntries? : List (String × Toml) → Option (List (String × Toml))
  | [] => some []
  | (key, t) :: rest => return (key, ← untag? t) :: (← untagEntries? rest)

end

namespace Scan

/-! ## Keys -/

def isBareKeyChar (c : Char) : Bool := c.isAlphanum || c == '_' || c == '-'

def simpleKey : Scan String := do
  if ← skip? ['\x22'] then return String.ofList (← lineString '\x22')
  if ← skip? ['\x27'] then return String.ofList (← lineString '\x27')
  let key ← takeWhile isBareKeyChar
  guard !key.isEmpty
  return String.ofList key

/-- The number of parts that is too many for a key, and of arrays and inline tables that is too many
around a value. -/
def tooDeep : Nat := 80

def dottedKey : Scan (List String) := do
  blanks
  let first ← simpleKey
  blanks
  let rest ← repeated (do
    if ← skip? ['.'] then
      blanks
      let key ← simpleKey
      blanks
      return some key
    else return none)
  guard (rest.length + 1 < tooDeep)
  return first :: rest

/-! ## Values -/

def isWordChar (c : Char) : Bool := !" \t\n\r,]\x7d#".toList.contains c

def scalar : Scan Toml := do
  let word ← takeWhile isWordChar
  let rest ← get
  let time := (rest.drop 1).takeWhile isWordChar
  let word ←
    if Moment.isDate word && rest.head? = some ' ' && Moment.isTime time then do
      set (rest.drop (time.length + 1))
      pure (word ++ ' ' :: time)
    else pure word
  Scalar.ofWord? word

def array (item : Scan Toml) : Scan Toml := do
  blankLines
  let items ← repeated (do
    if ← skip? [']'] then return none
    let value ← item
    blankLines
    if ← skip? [','] then blankLines else guard ((← peek) = some ']')
    return some value)
  return .array items

def assignment (item : Scan Toml) : Scan (List String × Toml) := do
  let key ← dottedKey
  skip ['=']
  blanks
  let value ← item
  blanks
  return (key, value)

def inlineTable (item : Scan Toml) : Scan Toml := do
  blanks
  if ← skip? ['\x7d'] then return .table []
  let first ← assignment item
  let rest ← repeated (do
    if ← skip? ['\x7d'] then return none
    skip [',']
    return some (← assignment item))
  let entries ← (first :: rest).foldlM
    (fun entries (key, value) => Entries.assign? value key entries) []
  return Entries.toToml entries

def valueAround (inner : Option (Scan Toml)) : Scan Toml := do
  if ← skip? ['\x22', '\x22', '\x22'] then return .string (String.ofList (← linesString '\x22'))
  if ← skip? ['\x22'] then return .string (String.ofList (← lineString '\x22'))
  if ← skip? ['\x27', '\x27', '\x27'] then return .string (String.ofList (← linesString '\x27'))
  if ← skip? ['\x27'] then return .string (String.ofList (← lineString '\x27'))
  if ← skip? ['['] then array (← inner)
  else if ← skip? ['\x7b'] then inlineTable (← inner)
  else scalar

def value : Nat → Scan Toml
  | 0 => valueAround none
  | depth + 1 => valueAround (some (value depth))

/-! ## Documents -/

end Scan

structure Draft where
  root : Entries
  header : List String

namespace Draft

def openTable? (header : List String) (d : Draft) : Option Draft :=
  (d.root.atHeader? Entries.openTable? header).map (⟨·, header⟩)

def addTable? (header : List String) (d : Draft) : Option Draft :=
  (d.root.atHeader? Entries.addTable? header).map (⟨·, header⟩)

def assign? (key : List String) (value : Toml) (d : Draft) : Option Draft :=
  (d.root.under? (Entries.assign? value key) d.header).map (⟨·, d.header⟩)

end Draft

namespace Scan

def statement (d : Draft) : Scan Draft := do
  if ← skip? ['[', '['] then
    let header ← dottedKey
    skip [']', ']']
    d.addTable? header
  else if ← skip? ['['] then
    let header ← dottedKey
    skip [']']
    d.openTable? header
  else
    let c ← peek
    if c.all (fun c => c == '#' || c == '\n' || c == '\r') then return d
    let (key, value) ← assignment (value (tooDeep - 1))
    d.assign? key value

def lines (d : Draft) : Nat → Scan Draft
  | 0 => failure
  | n + 1 => do
    blanks
    let d ← statement d
    blanks
    comment
    if ← lineEnd? then lines d n
    else
      guard (← get).isEmpty
      return d

end Scan

def ofText? (text : String) : Option Toml := do
  let s := match text.toList with
    | '\ufeff' :: s => s
    | s => s
  let (d, _) ← (Scan.lines ⟨[], []⟩ (s.length + 1)).run s
  (Entries.toToml d.root).untag?

end AngularClient.Toml
