/-! Edit scripts from one sequence to another.  An edit names its place in both sequences and how
many entries it keeps, deletes or inserts.  Reading a script uses the place in the old sequence of
what is kept or deleted and the place in the new one of what is inserted; the other place only says
where the edit was found. -/

namespace AngularClient.Diff

inductive Kind
  | keep | delete | insert
  deriving DecidableEq

structure Edit where
  kind : Kind
  old : Nat
  new : Nat
  len : Nat
  deriving DecidableEq

abbrev Script := List Edit

namespace Edit

def shiftDown (e : Edit) (n : Nat) : Edit := { e with old := e.old + n, new := e.new + n }

def shiftUp (e : Edit) (n : Nat) : Edit := { e with old := e.old - n, new := e.new - n }

def dropFirst (e : Edit) (n : Nat) : Edit := { e.shiftDown n with len := e.len - n }

def dropLast (e : Edit) (n : Nat) : Edit := { e with len := e.len - n }

def growUp (e : Edit) (n : Nat) : Edit := { e.shiftUp n with len := e.len + n }

def growDown (e : Edit) (n : Nat) : Edit := { e with len := e.len + n }

end Edit

variable {α : Type u} [BEq α]

def agree (old new : Array α) (i j : Nat) : Nat → Nat
  | 0 => 0
  | n + 1 => if old[i]? == new[j]? then agree old new (i + 1) (j + 1) n + 1 else 0

def agreeBefore (old new : Array α) (i j : Nat) : Nat → Nat
  | 0 => 0
  | n + 1 => if old[i - 1]? == new[j - 1]? then agreeBefore old new (i - 1) (j - 1) n + 1 else 0

theorem agree_le (old new : Array α) (i j n : Nat) : agree old new i j n ≤ n := by
  induction n generalizing i j with
  | zero => exact Nat.le_refl _
  | succ n ih => simp only [agree]; split <;> grind

theorem agreeBefore_le (old new : Array α) (i j n : Nat) : agreeBefore old new i j n ≤ n := by
  induction n generalizing i j with
  | zero => exact Nat.le_refl _
  | succ n ih => simp only [agreeBefore]; split <;> grind

structure Window where
  old : Nat
  oldLen : Nat
  new : Nat
  newLen : Nat

/-- How far paths reach: for every diagonal, the place in the old window of the farthest point. -/
structure Reach where
  centre : Nat
  places : Array Nat

namespace Reach

def start (centre : Nat) : Reach := ⟨centre, Array.replicate (2 * centre + 2) 0⟩

def index (r : Reach) (k : Int) : Nat := (r.centre + k).toNat

def get (r : Reach) (k : Int) : Nat := r.places.getD (r.index k) 0

def set (r : Reach) (k : Int) (place : Nat) : Reach :=
  { r with places := r.places.setIfInBounds (r.index k) place }

def advance (r : Reach) (d k : Int) : Nat :=
  if k = -d ∨ k ≠ d ∧ r.get (k - 1) < r.get (k + 1) then r.get (k + 1) else r.get (k - 1) + 1

end Reach

def diagonals (d : Nat) : List Int :=
  (List.range (d + 1)).map fun (i : Nat) => (d : Int) - 2 * (i : Int)

namespace Window

variable (old new : Array α) (w : Window)

def delta : Int := (w.oldLen : Int) - w.newLen

def halfBound : Nat := (w.oldLen + w.newLen + 1) / 2 + 1

/-- Extends the paths from the start by an edit and what agrees after it.  Ends with the point after
that edit where such a path meets one from the end. -/
def extendForward (d : Nat) (backward : Reach) (forward : Reach) : Except (Nat × Nat) Reach :=
  (diagonals d).foldlM (fun forward k =>
    let x := forward.advance d k
    let y := (x - k : Int).toNat
    let far :=
      if x < w.oldLen && y < w.newLen then
        x + agree old new (w.old + x) (w.new + y) (min (w.oldLen - x) (w.newLen - y))
      else x
    let meets := w.delta % 2 ≠ 0 ∧ (k - w.delta).natAbs + 1 ≤ d ∧
      w.oldLen ≤ far + backward.get (w.delta - k)
    if meets then .error (x, y) else .ok (forward.set k far)) forward

/-- Extends the paths from the end, which run backwards.  Ends with the farthest point of such a
path that meets one from the start. -/
def extendBackward (d : Nat) (forward : Reach) (backward : Reach) : Except (Nat × Nat) Reach :=
  (diagonals d).foldlM (fun backward k =>
    let x := backward.advance d k
    let y := (x - k : Int).toNat
    let more :=
      if x < w.oldLen && y < w.newLen then
        agreeBefore old new (w.old + w.oldLen - x) (w.new + w.newLen - y)
          (min (w.oldLen - x) (w.newLen - y))
      else 0
    let far := x + more
    let meets := w.delta % 2 = 0 ∧ (k - w.delta).natAbs ≤ d ∧
      w.oldLen ≤ far + forward.get (w.delta - k)
    if meets then .error (w.oldLen - far, w.newLen - (y + more))
    else .ok (backward.set k far)) backward

/-- A point inside the window that a shortest path goes through. -/
def meeting? : Option (Nat × Nat) :=
  let step := fun (forward, backward) d => do
    let forward ← w.extendForward old new d backward forward
    let backward ← w.extendBackward old new d forward backward
    return (forward, backward)
  match (List.range w.halfBound).foldlM step (Reach.start w.halfBound, Reach.start w.halfBound) with
  | .error point => some point
  | .ok _ => none

def splits (x y : Nat) : Bool :=
  x ≤ w.oldLen && y ≤ w.newLen && 0 < x + y && x + y < w.oldLen + w.newLen

def editIfSome (kind : Kind) (old new len : Nat) : Script :=
  if len = 0 then [] else [⟨kind, old, new, len⟩]

def inside (first last : Nat) : Window where
  old := w.old + first
  oldLen := w.oldLen - first - last
  new := w.new + first
  newLen := w.newLen - first - last

/-- A script for a window.  What agrees at both ends is kept; of what remains, one side may be
empty, and otherwise it is cut at a meeting point. -/
def script (w : Window) : Script :=
  let first := agree old new w.old w.new (min w.oldLen w.newLen)
  let last := agreeBefore old new (w.old + w.oldLen) (w.new + w.newLen)
    (min (w.oldLen - first) (w.newLen - first))
  let v := w.inside first last
  let middle :=
    if v.oldLen = 0 || v.newLen = 0 then
      editIfSome .delete v.old v.new v.oldLen ++ editIfSome .insert v.old v.new v.newLen
    else
      match v.meeting? old new with
      | none => [⟨.delete, v.old, v.new, v.oldLen⟩, ⟨.insert, v.old, v.new, v.newLen⟩]
      | some (x, y) =>
        if _h : v.splits x y then
          script ⟨v.old, x, v.new, y⟩ ++
            script ⟨v.old + x, v.oldLen - x, v.new + y, v.newLen - y⟩
        else [⟨.delete, v.old, v.new, v.oldLen⟩, ⟨.insert, v.old, v.new, v.newLen⟩]
  editIfSome .keep w.old w.new first ++ middle ++
    editIfSome .keep (w.old + w.oldLen - last) (w.new + w.newLen - last) last
  termination_by w.oldLen + w.newLen
  decreasing_by
    all_goals
      simp only [splits, Bool.and_eq_true, decide_eq_true_eq] at _h
      simp only [v, inside] at _h ⊢
      omega

end Window

def scriptBetween (old new : Array α) : Script :=
  Window.script old new ⟨0, old.size, 0, new.size⟩

end AngularClient.Diff
