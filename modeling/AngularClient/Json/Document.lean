import AngularClient.Json.Basic

/-! JSON as a text spells it: members in the order of the text, with repeated keys.  A part that is
well formed but stands for no value (a number beyond the range of doubles, a string with half a
surrogate pair, nesting deeper than `Document.maxDepth`) is kept as unreadable, since it does no
harm where nobody reads it. -/

namespace AngularClient

inductive Document
  | null
  | bool (b : Bool)
  | number (n : Number)
  | string (s : String)
  | array (items : List Document)
  | object (members : List (Option String × Document))
  | unreadable

namespace Document

def maxDepth : Nat := 127

mutual

def toJson? : Document → Option Json
  | .null => some .null
  | .bool b => some (.bool b)
  | .number n => some (.number n)
  | .string s => some (.string s)
  | .array items => return .array (← itemsToJson? items)
  | .object members => return .object (Dictionary.ofList (← membersToJson? members))
  | .unreadable => none

def itemsToJson? : List Document → Option (List Json)
  | [] => some []
  | d :: rest => return (← toJson? d) :: (← itemsToJson? rest)

def membersToJson? : List (Option String × Document) → Option (List (String × Json))
  | [] => some []
  | (k, d) :: rest => return ((← k), (← toJson? d)) :: (← membersToJson? rest)

end

mutual

def ofJson : Json → Document
  | .null => .null
  | .bool b => .bool b
  | .number n => .number n
  | .string s => .string s
  | .array items => .array (ofItems items)
  | .object members => .object (ofMembers members)

def ofItems : List Json → List Document
  | [] => []
  | j :: rest => ofJson j :: ofItems rest

def ofMembers : List (String × Json) → List (Option String × Document)
  | [] => []
  | (k, j) :: rest => (some k, ofJson j) :: ofMembers rest

end

end Document

end AngularClient
