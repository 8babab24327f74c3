import AngularClient.Diff.Script

/-! Settling a script: every deletion, and then every insertion, is moved up as far as it goes and
then down as far as it goes, and joins its like on the way.  An insertion moves past kept entries
that its own ends repeat; deletions and insertions move past each other. -/

namespace AngularClient.Diff

/-- A script with one edit in view.  The edits before it stand nearest first. -/
structure View where
  before : List Edit
  edit : Edit
  after : List Edit

variable {α : Type u} [BEq α]

/-- How many entries at the end of a kept run an edit inserts again at its own end. -/
def repeatsBefore (old new : Array α) (kept e : Edit) : Nat :=
  if e.kind = .insert then
    agreeBefore old new (kept.old + kept.len) (e.new + e.len) (min kept.len e.len)
  else 0

def repeatsAfter (old new : Array α) (e kept : Edit) : Nat :=
  if e.kind = .insert then agree old new kept.old e.new (min kept.len e.len) else 0

/-- Keeps `n` entries more in front of some edits: those before the end of `kept` in the old
sequence and before the end of `e` in the new one. -/
def keepBefore (kept e : Edit) (n : Nat) : List Edit → List Edit
  | next :: rest =>
    if next.kind = .keep then next.growUp n :: rest
    else ⟨.keep, kept.old + kept.len - n, e.new + e.len - n, n⟩ :: next :: rest
  | [] => [⟨.keep, kept.old + kept.len - n, e.new + e.len - n, n⟩]

def keepAfter (kept e : Edit) (n : Nat) : List Edit → List Edit
  | last :: rest =>
    if last.kind = .keep then last.growDown n :: rest
    else ⟨.keep, kept.old, e.new, n⟩ :: last :: rest
  | [] => [⟨.keep, kept.old, e.new, n⟩]

def consIfSome (e : Edit) (edits : List Edit) : List Edit := if e.len = 0 then edits else e :: edits

def extent : List Edit → Nat
  | [] => 0
  | e :: rest => e.len + 1 + extent rest

theorem extent_consIfSome_lt {e left : Edit} (edits : List Edit) (h : left.len < e.len) :
    extent (consIfSome left edits) < extent (e :: edits) := by
  simp only [extent, consIfSome]
  split
  · omega
  · simp only [extent]
    omega

namespace View

variable (old new : Array α)

def moveUp (before : List Edit) (e : Edit) (after : List Edit) : View :=
  match before with
  | [] => ⟨[], e, after⟩
  | prev :: before =>
    if prev.kind = .keep then
      let n := repeatsBefore old new prev e
      if _h : 0 < n ∧ 0 < prev.len then
        moveUp (consIfSome (prev.dropLast n) before) (e.shiftUp n) (keepBefore prev e n after)
      else if prev.len = 0 then moveUp before e after
      else ⟨prev :: before, e, after⟩
    else if prev.kind = e.kind then moveUp before (prev.growDown e.len) after
    else moveUp before e (prev :: after)
  termination_by extent before
  decreasing_by
    · exact extent_consIfSome_lt before (by simp only [Edit.dropLast]; omega)
    all_goals simp [extent]

def moveDown (before : List Edit) (e : Edit) (after : List Edit) : View :=
  match after with
  | [] => ⟨before, e, []⟩
  | next :: after =>
    if next.kind = .keep then
      let n := repeatsAfter old new e next
      if _h : 0 < n ∧ 0 < next.len then
        moveDown (keepAfter next e n before) (e.shiftDown n) (consIfSome (next.dropFirst n) after)
      else if next.len = 0 then moveDown before e after
      else ⟨before, e, next :: after⟩
    else if next.kind = e.kind then moveDown before (e.growDown next.len) after
    else moveDown (next :: before) e after
  termination_by extent after
  decreasing_by
    · exact extent_consIfSome_lt after (by simp only [Edit.dropFirst]; omega)
    all_goals simp [extent]

end View

/-- Settles the edits of one kind from a place on, given the edits before it nearest first.  Every
turn ends further down, so there are no more turns than entries. -/
def settleFrom (kind : Kind) (old new : Array α) : Nat → List Edit → List Edit → Script
  | 0, before, after => before.reverse ++ after
  | _ + 1, before, [] => before.reverse
  | turns + 1, before, e :: after =>
    if e.kind = kind then
      let up := View.moveUp old new before e after
      let down := View.moveDown old new up.before up.edit up.after
      settleFrom kind old new turns (down.edit :: down.before) down.after
    else settleFrom kind old new turns (e :: before) after

def settle (old new : Array α) (script : Script) : Script :=
  let turns := old.size + new.size + 1
  settleFrom .insert old new turns [] (settleFrom .delete old new turns [] script)

end AngularClient.Diff
