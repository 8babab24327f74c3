import AngularClient.Text.CaseTable

namespace AngularClient.Text

def inRanges (ranges : List (Nat × Nat)) (c : Char) : Bool :=
  ranges.any fun (first, last) => first ≤ c.toNat && c.toNat ≤ last

def shifted (rows : List (Nat × Nat × Nat × Int)) (c : Char) : Char :=
  match rows.find? fun (first, last, stride, _) =>
      first ≤ c.toNat && c.toNat ≤ last && (c.toNat - first) % stride == 0 with
  | some (_, _, _, offset) => Char.ofNat (c.toNat + offset).toNat
  | none => c

def upperChar (c : Char) : List Char :=
  if c.toNat < 0x80 then [c.toUpper]
  else match CaseTable.upperSpecial.lookup c.toNat with
    | some image => image.map Char.ofNat
    | none => [shifted CaseTable.upper c]

def lowerChar (c : Char) : List Char :=
  if c.toNat < 0x80 then [c.toLower]
  else if c = 'İ' then ['i', '\u0307']
  else [shifted CaseTable.lower c]

def meetsCased (s : List Char) : Bool :=
  match s.find? (! inRanges CaseTable.caseIgnorable ·) with
  | some c => inRanges CaseTable.cased c
  | none => false

def lowerAfter (before : List Char) : List Char → List Char
  | [] => []
  | c :: rest =>
    (if c = 'Σ' then [if meetsCased before && !meetsCased rest then 'ς' else 'σ'] else lowerChar c)
      ++ lowerAfter (c :: before) rest

def upper (s : String) : String := String.ofList (s.toList.flatMap upperChar)

def lower (s : String) : String := String.ofList (lowerAfter [] s.toList)

def capitalize (s : String) : String :=
  match s.toList with
  | [] => ""
  | c :: rest => String.ofList (upperChar c ++ rest)

/-- Words in `s`, `x`, `ch` and `sh` take `es`.  A `y` becomes `ies` unless `a`, `e`, `o` or `u`
precedes it; everything else takes `s`. -/
def pluralize (word : String) : String :=
  match word.toList.reverse with
  | 's' :: _ | 'x' :: _ | 'h' :: 'c' :: _ | 'h' :: 's' :: _ => word ++ "es"
  | 'y' :: rest =>
    if rest.head?.any ("aeou".toList.contains ·) then word ++ "s"
    else String.ofList rest.reverse ++ "ies"
  | _ => word ++ "s"

end AngularClient.Text
