import AngularClient.Diff.Script
import AngularClient.Diff.Settled

namespace AngularClient.Diff

def consLine (c : Char) : List (List Char) → List (List Char)
  | [] => [[c]]
  | line :: rest =>
    if c = '\n' || c = '\r' && line.head? ≠ some '\n' then [c] :: line :: rest
    else (c :: line) :: rest

def endedLines (s : List Char) : List (List Char) := s.foldr consLine []

def isEnded (line : List Char) : Bool := line.getLast? == some '\n' || line.getLast? == some '\r'

@[simp] theorem flatten_consLine (c : Char) (ls : List (List Char)) :
    (consLine c ls).flatten = c :: ls.flatten := by
  cases ls with
  | nil => rfl
  | cons line rest => simp only [consLine]; split <;> simp

@[simp] theorem flatten_endedLines (s : List Char) : (endedLines s).flatten = s := by
  induction s with
  | nil => rfl
  | cons c s ih =>
    show (consLine c (endedLines s)).flatten = c :: s
    rw [flatten_consLine, ih]

inductive Block
  | keep (old new len : Nat)
  | change (old oldLen new newLen : Nat)
  deriving DecidableEq

namespace Block

def oldStart : Block → Nat
  | .keep old _ _ | .change old _ _ _ => old

def newStart : Block → Nat
  | .keep _ new _ | .change _ _ new _ => new

def oldEnd : Block → Nat
  | .keep old _ len => old + len
  | .change old oldLen _ _ => old + oldLen

def newEnd : Block → Nat
  | .keep _ new len => new + len
  | .change _ _ new newLen => new + newLen

end Block

/-- Puts an edit in front of blocks.  Changes in a row become one; it lies where the first deletion
lies in the old sequence and where the first insertion lies in the new one, so far as it has any. -/
def Edit.cons (e : Edit) (blocks : List Block) : List Block :=
  match e.kind, blocks with
  | .keep, .keep _ _ len :: rest => .keep e.old e.new (e.len + len) :: rest
  | .keep, _ => .keep e.old e.new e.len :: blocks
  | .delete, .change _ oldLen new newLen :: rest =>
    .change e.old (e.len + oldLen) (if newLen = 0 then e.new else new) newLen :: rest
  | .delete, _ => .change e.old e.len e.new 0 :: blocks
  | .insert, .change old oldLen _ newLen :: rest =>
    .change (if oldLen = 0 then e.old else old) oldLen e.new (e.len + newLen) :: rest
  | .insert, _ => .change e.old 0 e.new e.len :: blocks

def Script.blocks (script : Script) : List Block := script.foldr Edit.cons []

abbrev Hunk := List Block

namespace Hunk

def trimStart (radius : Nat) : List Block → List Block
  | .keep old new len :: rest =>
    .keep (old + (len - radius)) (new + (len - radius)) (min len radius) :: rest
  | blocks => blocks

def trimEnd (radius : Nat) : List Block → List Block
  | [.keep old new len] => [.keep old new (min len radius)]
  | b :: rest => b :: trimEnd radius rest
  | [] => []

/-- Cuts blocks wherever more than twice `radius` entries are kept.  The first argument holds the
blocks of the hunk that is open; kept entries alone make no hunk. -/
def cut (radius : Nat) (hunk : Hunk) : List Block → List Hunk
  | [] =>
    match hunk with
    | [] | [.keep ..] => []
    | _ => [hunk]
  | .keep old new len :: rest =>
    if 2 * radius < len then
      (hunk ++ [.keep old new radius]) ::
        cut radius [.keep (old + (len - radius)) (new + (len - radius)) radius] rest
    else cut radius (hunk ++ [.keep old new len]) rest
  | b :: rest => cut radius (hunk ++ [b]) rest

def ofScript (radius : Nat) (script : Script) : List Hunk :=
  cut radius [] (trimEnd radius (trimStart radius script.blocks))

end Hunk

/-- The range of a hunk on one side, from a place up to another.  A range of one line is given by
its number alone, and an empty one by the number of the line before it. -/
def rangeText (start stop : Nat) : String :=
  match stop - start with
  | 0 => s!"{start},0"
  | 1 => s!"{start + 1}"
  | len => s!"{start + 1},{len}"

def lineText (mark : Char) (line : List Char) : List Char :=
  mark :: line ++ if isEnded line then [] else "\n\\ No newline at end of file\n".toList

def linesText (mark : Char) (lines : Array (List Char)) (start len : Nat) : List Char :=
  (lines.extract start (start + len)).toList.flatMap (lineText mark)

def Block.text (old new : Array (List Char)) : Block → List Char
  | .keep o _ len => linesText ' ' old o len
  | .change o oldLen n newLen => linesText '-' old o oldLen ++ linesText '+' new n newLen

def Hunk.text (old new : Array (List Char)) (hunk : Hunk) : List Char :=
  match hunk.head?, hunk.getLast? with
  | some first, some last =>
    let oldRange := rangeText first.oldStart last.oldEnd
    let newRange := rangeText first.newStart last.newEnd
    s!"@@ -{oldRange} +{newRange} @@\n".toList ++ hunk.flatMap (Block.text old new)
  | _, _ => []

def contextRadius : Nat := 3

def hunks (old new : Array (List Char)) : List Hunk :=
  Hunk.ofScript contextRadius (settle old new (scriptBetween old new))

def unified (old new path : String) : String :=
  let oldLines := (endedLines old.toList).toArray
  let newLines := (endedLines new.toList).toArray
  s!"--- a/{path}\n+++ b/{path}\n" ++
    String.ofList ((hunks oldLines newLines).flatMap (Hunk.text oldLines newLines))

end AngularClient.Diff
