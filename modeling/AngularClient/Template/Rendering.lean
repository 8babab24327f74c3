import AngularClient.Json.Basic
import AngularClient.Text.Cluster
import AngularClient.Text.Quoting

namespace AngularClient

def actionKey (name : String) : String :=
  String.ofList (name.toList.map fun c => if c = '.' then '$' else c)

inductive Filter
  | literal
  | key
  deriving DecidableEq

def Filter.apply : Filter → String → String
  | .literal => Text.literal
  | .key => actionKey

abbrev ValuePath := List String

inductive Condition
  | holds (path : ValuePath)
  | not (c : Condition)
  | both (c d : Condition)

inductive Piece
  | text (s : String)
  | lines (ls : List String)
  | slot (path : ValuePath) (filters : List Filter)
  | choice (c : Condition) (yes no : List Piece)
  | each (name : String) (path : ValuePath) (body : List Piece)

abbrev Template := List Piece

def Piece.given (path : ValuePath) (body : Template) : Piece := .choice (.holds path) body []

inductive Template.Obstruction
  | unknown
  | value
  /-- A loop comes to a character that is not a cluster of its own. -/
  | cluster
  deriving DecidableEq

namespace Json

mutual

def display : Json → List Char
  | .null => []
  | .bool true => ['t', 'r', 'u', 'e']
  | .bool false => ['f', 'a', 'l', 's', 'e']
  | .number n => n.write .plain
  | .string s => s.toList
  | .array items => '[' :: displayItems items ++ [']']
  | .object _ => ['[', 'o', 'b', 'j', 'e', 'c', 't', ']']

def displayItems : List Json → List Char
  | [] => []
  | [j] => display j
  | j :: rest => display j ++ ',' :: ' ' :: displayItems rest

end

/-- Null, false, zero and whatever is empty do not hold. -/
def holds : Json → Bool
  | .null => false
  | .bool b => b
  | .number (.int n) => n != 0
  | .number (.double x) => !x.isZero
  | .string s => s != ""
  | .array items => !items.isEmpty
  | .object members => !members.isEmpty

def characterItems : List Char → List (Except Template.Obstruction Json)
  | [] => []
  | [c] => [.ok (.string (String.singleton c))]
  | c :: next :: rest =>
    .ok (.string (String.singleton c)) ::
      if Text.joins c next then [.error .cluster] else characterItems (next :: rest)

def items? : Json → Option (List (Except Template.Obstruction Json))
  | .array items => some (items.map .ok)
  | .string s => some (characterItems s.toList)
  | _ => none

def descend : List String → Json → Option Json
  | [], j => some j
  | key :: rest, j => (j.member? key).bind (descend rest)

end Json

abbrev Bindings := List (String × Json)

/-- The value at a path under the innermost binding that has the whole path. -/
def Bindings.find? (bindings : Bindings) : ValuePath → Option Json
  | [] => none
  | root :: rest => bindings.findSome? fun (name, j) => if name = root then j.descend rest else none

def Condition.eval (bindings : Bindings) : Condition → Bool
  | .holds path => (bindings.find? path).any (·.holds)
  | .not c => !c.eval bindings
  | .both c d => c.eval bindings && d.eval bindings

def Filter.fill (filters : List Filter) (j : Json) : Option (List Char) :=
  if filters.isEmpty then some j.display
  else j.str?.map fun s => (filters.foldl (fun s f => f.apply s) s).toList

mutual

def Piece.render (bindings : Bindings) : Piece → Except Template.Obstruction (List Char)
  | .text s => .ok s.toList
  | .lines ls => .ok (ls.flatMap fun line => '\n' :: line.toList)
  | .slot path filters =>
    match (bindings.find? path).bind (Filter.fill filters) with
    | some text => .ok text
    | none => .error .value
  | .choice c yes no =>
    if c.eval bindings then Template.render bindings yes else Template.render bindings no
  | .each name path body =>
    match (bindings.find? path).bind (·.items?) with
    | some items => do
      let texts ← items.mapM fun item => do Template.render ((name, ← item) :: bindings) body
      return texts.flatten
    | none => .error .value

def Template.render (bindings : Bindings) : List Piece → Except Template.Obstruction (List Char)
  | [] => .ok []
  | piece :: rest => return (← Piece.render bindings piece) ++ (← Template.render bindings rest)

end

end AngularClient
