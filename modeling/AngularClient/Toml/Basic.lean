import AngularClient.Json.Document

namespace AngularClient

inductive Toml
  | string (s : String)
  | integer (n : Int)
  | float (spelling : String)
  | boolean (b : Bool)
  | moment (spelling : String)
  | array (items : List Toml)
  | table (entries : List (String × Toml))

namespace Toml

def str? : Toml → Option String
  | .string s => some s
  | _ => none

def find? (key : String) : Toml → Option Toml
  | .table entries => Dictionary.find? entries key
  | _ => none

mutual

def overlay : Toml → Toml → Toml
  | .table base, .table top => .table (overlayEntries base top)
  | _, top => top

def overlayEntries (base : List (String × Toml)) : List (String × Toml) → List (String × Toml)
  | [] => base
  | (key, top) :: rest =>
    let value := match Dictionary.find? base key with
      | some b => overlay b top
      | none => top
    overlayEntries (Dictionary.insert key value base) rest

end

mutual

/-- A value as a document.  A moment is read as its spelling; a float is of no use to anyone. -/
def toDocument : Toml → Document
  | .string s => .string s
  | .integer n => .number (.int n)
  | .float _ => .unreadable
  | .boolean b => .bool b
  | .moment spelling => .string spelling
  | .array items => .array (itemsToDocument items)
  | .table entries => .object (entriesToDocument entries)

def itemsToDocument : List Toml → List Document
  | [] => []
  | t :: rest => toDocument t :: itemsToDocument rest

def entriesToDocument : List (String × Toml) → List (Option String × Document)
  | [] => []
  | (key, t) :: rest => (some key, toDocument t) :: entriesToDocument rest

end

end Toml

end AngularClient
