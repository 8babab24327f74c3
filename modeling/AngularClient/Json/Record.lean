import AngularClient.Json.Reader

/-! Reading documents as data.  A record is an object with known fields, of which none may be given
twice, or an array of its fields in order; members nobody knows are skipped unread. -/

namespace AngularClient.Document

def string? : Document → Option String
  | .string s => some s
  | _ => none

def bool? : Document → Option Bool
  | .bool b => some b
  | _ => none

def natBelow? (bound : Nat) : Document → Option Nat
  | .number (.int (.ofNat n)) => if n < bound then some n else none
  | _ => none

def list? (item : Document → Option α) : Document → Option (List α)
  | .array items => items.mapM item
  | _ => none

def nullable? (value : Document → Option α) : Document → Option (Option α)
  | .null => some none
  | d => (value d).map some

def members? : Document → Option (List (String × Document))
  | .object members => members.mapM fun (k, d) => k.map (·, d)
  | _ => none

def dictionary? (value : Document → Option α) (d : Document) : Option (Dictionary α) := do
  let entries ← (← d.members?).mapM fun (k, v) => (value v).map (k, ·)
  return Dictionary.ofList entries

/-- A field of a record: the name it is known by, then other accepted spellings. -/
abbrev FieldNames := List String

abbrev Fields := List (String × Document)

def fieldOf (names : List FieldNames) (key : String) : Option String :=
  (names.find? (·.contains key)).bind (·.head?)

def fieldsOf? (names : List FieldNames) (members : List (String × Document)) : Option Fields :=
  let fields := members.filterMap fun (k, d) => (fieldOf names k).map (·, d)
  if (fields.map Prod.fst).Nodup then some fields else none

def record? (names : List FieldNames) : Document → Option Fields
  | .array items =>
    if items.length ≤ names.length then some ((names.filterMap (·.head?)).zip items) else none
  | d => do fieldsOf? names (← d.members?)

namespace Fields

variable (fields : Fields) (name : String)

def required (value : Document → Option α) : Option α := do value (← fields.lookup name)

def withDefault (default : α) (value : Document → Option α) : Option α :=
  match fields.lookup name with
  | none => some default
  | some d => value d

def optional (value : Document → Option α) : Option (Option α) :=
  fields.withDefault name none (nullable? value)

end Fields

inductive ReadError
  | malformed
  | shape
  deriving DecidableEq

def readText (value : Document → Option α) (text : String) : Except ReadError α :=
  match ofText? text with
  | none => .error .malformed
  | some d =>
    match value d, d.toJson? with
    | some x, _ => .ok x
    | none, none => .error .malformed
    | none, some _ => .error .shape

end AngularClient.Document
