import AngularClient.Diff.Unified
import AngularClient.Proofs.Diff.Hunk

namespace AngularClient.Diff

def Kind.mark : Kind → Char
  | .keep => ' '
  | .delete => '-'
  | .insert => '+'

def without (kind : Kind) (body : List (Kind × List Char)) : List (List Char) :=
  (body.filter (·.1 ≠ kind)).map Prod.snd

/-- A hunk as it is printed: the place and the number of its lines on both sides, counted from zero,
and its lines after their marks. -/
structure Printed where
  oldStart : Nat
  oldLen : Nat
  newStart : Nat
  newLen : Nat
  body : List (Kind × List Char)

namespace Printed

def oldSide (p : Printed) : List (List Char) := without .insert p.body

def newSide (p : Printed) : List (List Char) := without .delete p.body

def text (p : Printed) : List Char :=
  let oldRange := rangeText p.oldStart (p.oldStart + p.oldLen)
  let newRange := rangeText p.newStart (p.newStart + p.newLen)
  s!"@@ -{oldRange} +{newRange} @@\n".toList ++
    p.body.flatMap fun line => lineText line.1.mark line.2

/-- Lays hunks on the lines from a place on.  Every hunk must start behind the one before, with its
old side in place. -/
def replay? (place : Nat) : List Printed → List (List Char) → Option (List (List Char))
  | [], lines => some lines
  | p :: rest, lines =>
    let before := lines.take (p.oldStart - place)
    let after := lines.drop (p.oldStart - place)
    if place ≤ p.oldStart ∧ p.oldStart - place ≤ lines.length ∧ p.oldSide <+: after then
      (replay? (p.oldStart + p.oldSide.length) rest (after.drop p.oldSide.length)).map
        (before ++ p.newSide ++ ·)
    else none

def applyTo? (patch : List Printed) (text : String) : Option String :=
  (replay? 0 patch (endedLines text.toList)).map fun lines => String.ofList lines.flatten

/-- What hunks say of their place on the new side and of their length on both sides fits their
lines, behind hunks with `i` lines on the old side and `j` on the new one. -/
def HeadersFit (i j : Nat) : List Printed → Prop
  | [] => True
  | p :: rest =>
    p.newStart + i = p.oldStart + j ∧ p.oldLen = p.oldSide.length ∧ p.newLen = p.newSide.length ∧
      HeadersFit (i + p.oldSide.length) (j + p.newSide.length) rest

end Printed

def Block.body (old new : Array (List Char)) : Block → List (Kind × List Char)
  | .keep a _ len => (old.extract a (a + len)).toList.map (Kind.keep, ·)
  | .change a oldLen b newLen =>
    (old.extract a (a + oldLen)).toList.map (Kind.delete, ·) ++
      (new.extract b (b + newLen)).toList.map (Kind.insert, ·)

def Hunk.printed? (old new : Array (List Char)) (h : Hunk) : Option Printed :=
  match h.head?, h.getLast? with
  | some first, some last =>
    some {
      oldStart := first.oldStart
      oldLen := last.oldEnd - first.oldStart
      newStart := first.newStart
      newLen := last.newEnd - first.newStart
      body := h.flatMap (Block.body old new) }
  | _, _ => none

def patch (old new : String) : List Printed :=
  let oldLines := (endedLines old.toList).toArray
  let newLines := (endedLines new.toList).toArray
  (hunks oldLines newLines).filterMap (Hunk.printed? oldLines newLines)

variable {old new : Array (List Char)} {i j k l i' j' n : Nat}

section Text

theorem rangeText_sub (start stop : Nat) : rangeText start (start + (stop - start)) =
    rangeText start stop := by
  rw [rangeText, Nat.add_sub_cancel_left, rangeText]

theorem flatMap_body (b : Block) :
    ((b.body old new).flatMap fun line => lineText line.1.mark line.2) = b.text old new := by
  cases b with
  | keep => exact List.flatMap_map ..
  | change =>
    rw [Block.body, List.flatMap_append, List.flatMap_map, List.flatMap_map]
    rfl

theorem text_of_printed? {h : Hunk} : ((h.printed? old new).map Printed.text).getD [] =
    h.text old new := by
  rw [Hunk.text, Hunk.printed?]
  cases h.head? with
  | none => rfl
  | some first =>
    cases h.getLast? with
    | none => rfl
    | some last =>
      dsimp only [Option.map_some, Option.getD_some, Printed.text]
      rw [rangeText_sub, rangeText_sub, List.flatMap_assoc, funext flatMap_body]

theorem flatMap_text (hs : List Hunk) :
    (hs.filterMap (Hunk.printed? old new)).flatMap Printed.text = hs.flatMap (Hunk.text old new) := by
  induction hs with
  | nil => rfl
  | cons h hs ih =>
    rw [List.flatMap_cons, ← ih, ← text_of_printed?, List.filterMap_cons]
    cases h.printed? old new with
    | none => rfl
    | some p => exact List.flatMap_cons

theorem unified_eq_patch (old new path : String) : unified old new path =
    s!"--- a/{path}\n+++ b/{path}\n" ++ String.ofList ((patch old new).flatMap Printed.text) := by
  rw [patch, flatMap_text, unified]

end Text

section Sides

@[simp] theorem without_append (kind : Kind) (body more : List (Kind × List Char)) :
    without kind (body ++ more) = without kind body ++ without kind more := by
  simp [without]

@[simp] theorem without_map (kind other : Kind) (lines : List (List Char)) :
    without kind (lines.map (other, ·)) = if other = kind then [] else lines := by
  split <;> simp_all [without, List.filter_map, Function.comp_def]

theorem Same.extract_eq (h : Same old new i j n) : old.extract i (i + n) = new.extract j (j + n) := by
  refine Array.ext_getElem? fun m => ?_
  rw [Array.getElem?_extract, Array.getElem?_extract]
  by_cases hm : m < n
  · have heq := h m hm
    grind
  · rw [if_neg (by omega), if_neg (by omega)]

theorem extract_of_pos (lines : Array (List Char)) (h : 0 < n → i = j) :
    lines.extract i (i + n) = lines.extract j (j + n) := by
  rcases Nat.eq_zero_or_pos n with rfl | hn
  · rw [Nat.add_zero, Nat.add_zero, Array.extract_empty_of_stop_le_start (Nat.le_refl i),
      Array.extract_empty_of_stop_le_start (Nat.le_refl j)]
  · rw [h hn]

theorem extract_append (lines : Array (List Char)) (hij : i ≤ j) (hjk : j ≤ k) :
    (lines.extract i j).toList ++ (lines.extract j k).toList = (lines.extract i k).toList := by
  rw [← Array.toList_append, Array.extract_append_extract, Nat.min_eq_left hij,
    Nat.max_eq_right hjk]

theorem oldSide_body {bs : List Block} (h : Tiles old new i j bs k l) :
    without .insert (bs.flatMap (Block.body old new)) = (old.extract i k).toList := by
  induction h with
  | nil => simp [without]
  | keep _ _ rest ih =>
    rw [List.flatMap_cons, without_append, ih, Block.body, without_map, if_neg (by decide),
      extract_append old (Nat.le_add_right _ _) rest.le.1]
  | change hold _ _ _ rest ih =>
    rw [List.flatMap_cons, without_append, ih, Block.body, without_append, without_map,
      if_neg (by decide), without_map, if_pos rfl, List.append_nil, extract_of_pos old hold,
      extract_append old (Nat.le_add_right _ _) rest.le.1]

theorem newSide_body {bs : List Block} (h : Tiles old new i j bs k l) :
    without .delete (bs.flatMap (Block.body old new)) = (new.extract j l).toList := by
  induction h with
  | nil => simp [without]
  | keep _ same rest ih =>
    rw [List.flatMap_cons, without_append, ih, Block.body, without_map, if_neg (by decide),
      same.extract_eq, extract_append new (Nat.le_add_right _ _) rest.le.2]
  | change _ hnew _ _ rest ih =>
    rw [List.flatMap_cons, without_append, ih, Block.body, without_append, without_map, if_pos rfl,
      without_map, if_neg (by decide), List.nil_append, extract_of_pos new hnew,
      extract_append new (Nat.le_add_right _ _) rest.le.2]

end Sides

namespace Printed

variable {p : Printed} {ps : List Printed} {before lines rest : List (List Char)}

theorem replay?_gap (h : replay? (i + before.length) ps lines = some rest) :
    replay? i ps (before ++ lines) = some (before ++ rest) := by
  cases ps with
  | nil => exact congrArg (some <| before ++ ·) (Option.some.inj h)
  | cons p ps =>
    rw [replay?] at h ⊢
    split at h
    · next hplace =>
      obtain ⟨hle, hlen, hside⟩ := hplace
      obtain ⟨after, hafter, rfl⟩ := Option.map_eq_some_iff.1 h
      have hgap : p.oldStart - i = before.length + (p.oldStart - (i + before.length)) := by omega
      rw [hgap, List.take_length_add_append, List.drop_length_add_append, List.length_append,
        if_pos ⟨by omega, by omega, hside⟩, hafter, Option.map_some, List.append_assoc,
        List.append_assoc, List.append_assoc]
    · cases h

theorem replay?_cons (hstart : p.oldStart = i)
    (h : replay? (i + p.oldSide.length) ps lines = some rest) :
    replay? i (p :: ps) (p.oldSide ++ lines) = some (p.newSide ++ rest) := by
  rw [replay?, hstart, Nat.sub_self, List.drop_zero, List.drop_left, h, List.take_zero,
    List.nil_append, if_pos ⟨Nat.le_refl i, Nat.zero_le _, List.prefix_append _ _⟩]
  rfl

end Printed

structure Prints (old new : Array (List Char)) (i j k l : Nat) (h : Hunk) (p : Printed) : Prop where
  printed : h.printed? old new = some p
  oldStart : p.oldStart = i
  oldSide : p.oldSide = (old.extract i k).toList
  newSide : p.newSide = (new.extract j l).toList
  fits : (p.newStart = j ∧ p.oldLen = k - i ∧ p.newLen = l - j) ↔ Spans j k l h

theorem exists_prints {h : Hunk} (hne : h ≠ []) (hstart : ∀ b ∈ h.head?, b.oldStart = i)
    (htiles : Tiles old new i j h k l) : ∃ p, Prints old new i j k l h p := by
  obtain ⟨first, hfirst⟩ := Option.ne_none_iff_exists'.1 (mt List.head?_eq_none_iff.1 hne)
  obtain ⟨last, hlast⟩ := Option.ne_none_iff_exists'.1 (mt List.getLast?_eq_none_iff.1 hne)
  refine ⟨⟨first.oldStart, last.oldEnd - first.oldStart, first.newStart,
    last.newEnd - first.newStart, h.flatMap (Block.body old new)⟩, ?_, hstart first hfirst,
    oldSide_body htiles, newSide_body htiles, ?_⟩
  · rw [Hunk.printed?, hfirst, hlast]
  · rw [htiles.spans_iff hfirst hlast (hstart first hfirst)]

@[simp] theorem length_extract (lines : Array (List Char)) (h : j ≤ lines.size) :
    (lines.extract i j).toList.length = j - i := by
  rw [Array.length_toList, Array.size_extract, Nat.min_eq_left h]

theorem replay?_patches {hs : List Hunk} (h : Patches old new i j hs i' j') (hsize : i' ≤ old.size) :
    Printed.replay? i (hs.filterMap (Hunk.printed? old new)) (old.extract i i').toList =
      some (new.extract j j').toList := by
  induction h with
  | nil =>
    rw [Array.extract_empty_of_stop_le_start (Nat.le_refl _),
      Array.extract_empty_of_stop_le_start (Nat.le_refl _)]
    rfl
  | @gap i j i' j' n hs same rest ih =>
    have hle := rest.le
    rw [← extract_append old (Nat.le_add_right i n) hle.1,
      ← extract_append new (Nat.le_add_right j n) hle.2, ← same.extract_eq]
    refine Printed.replay?_gap ?_
    rw [length_extract old (by omega), Nat.add_sub_cancel_left]
    exact ih hsize
  | hunk hne start tiles rest ih =>
    have hle := rest.le
    obtain ⟨p, hprinted, hstart, hold, hnew, -⟩ := exists_prints hne start tiles
    rw [List.filterMap_cons_some hprinted, ← extract_append old tiles.le.1 hle.1, ← hold,
      ← extract_append new tiles.le.2 hle.2, ← hnew]
    refine Printed.replay?_cons hstart ?_
    rw [hold, length_extract old (by omega), Nat.add_sub_of_le tiles.le.1]
    exact ih hsize

theorem Prints.headersFit_cons_iff {h : Hunk} {p : Printed} {a b : Nat}
    (hp : Prints old new i j k l h p) (hold : k ≤ old.size) (hnew : l ≤ new.size)
    (hplace : i + b = j + a) (ps : List Printed) : Printed.HeadersFit a b (p :: ps) ↔
      Spans j k l h ∧ Printed.HeadersFit (a + (k - i)) (b + (l - j)) ps := by
  have hstart : p.newStart + a = i + b ↔ p.newStart = j := by omega
  rw [Printed.HeadersFit, hp.oldStart, hp.oldSide, hp.newSide, length_extract old hold,
    length_extract new hnew, hstart, ← hp.fits, and_assoc, and_assoc]

theorem headersFit_iff {bs : List Block} {hs : List Hunk} {a b : Nat} (h : CutInto bs hs)
    (htiles : Tiles old new i j bs i' j') (hstart : ∀ b ∈ bs.head?, b.oldStart = i)
    (hold : i' ≤ old.size) (hnew : j' ≤ new.size) (hplace : i + b = j + a) :
    Printed.HeadersFit a b (hs.filterMap (Hunk.printed? old new)) ↔ Spans j i' j' bs := by
  -- Lines that are left out are kept on both sides, so the two sides stay as far apart as before.
  induction h generalizing i j i' j' a b with
  | nil =>
    cases htiles
    exact iff_of_true trivial ⟨nofun, nofun⟩
  | kept c d len =>
    cases htiles with
    | keep _ _ rest =>
      cases rest
      exact iff_of_true trivial (spans_keep _ _ len)
  | whole hne =>
    obtain ⟨p, hp⟩ := exists_prints hne hstart htiles
    rw [List.filterMap_cons_some hp.printed, hp.headersFit_cons_iff hold hnew hplace]
    exact and_iff_left trivial
  | @split h c d len first last bs hs hfirst hlast hle _ ih =>
    obtain ⟨hfront, -, hkept⟩ := htiles.keep_first (fun _ => hfirst) (by omega)
    obtain ⟨-, hrest⟩ := hkept.keep_last (fun _ => hlast) (by omega)
    have hrest_le := hrest.le
    have hfront_le := hfront.le
    obtain ⟨p, hp⟩ := exists_prints (by simp)
      ((forall_head?_keep_iff fun k _ => k = i).2 hstart) hfront
    rw [List.filterMap_cons_some hp.printed, hp.headersFit_cons_iff (by omega) (by omega) hplace]
    refine Iff.trans (and_congr_right fun _ => ih hrest ?_ hold hnew (by omega))
      (spans_append_keep_iff (by omega)).symm
    rintro _ ⟨⟩
    rfl
  | @trimStart c d len last bs hs hlast hle _ ih =>
    obtain ⟨-, hrest⟩ := htiles.keep_last hlast hle
    cases htiles with
    | keep _ _ rest =>
      rw [spans_keep_cons_iff hle]
      refine ih hrest ?_ hold hnew (by omega)
      rintro _ ⟨⟩
      rfl
  | @trimEnd c d len first bs hs hfirst hle _ ih =>
    obtain ⟨hfront, -, hkept⟩ := htiles.keep_first hfirst hle
    cases hkept with
    | keep _ _ rest =>
      cases rest
      rw [ih hfront ((forall_head?_keep_iff fun k _ => k = i).2 hstart) (by omega) (by omega) hplace,
        spans_concat_keep_iff, spans_concat_keep_iff]
      exact forall_head?_keep_iff fun _ l => l = j

theorem connects_settled (old new : Array (List Char)) :
    Connects old new (settle old new (scriptBetween old new)) :=
  connects_settle (connects_scriptBetween old new)

theorem tiles_settled (old new : Array (List Char)) : Tiles old new 0 0
    (Script.blocks (settle old new (scriptBetween old new))) old.size new.size :=
  tiles_blocks (connects_settled old new).leads (connects_settled old new).positive

theorem cutInto_hunks (old new : Array (List Char)) :
    CutInto (Script.blocks (settle old new (scriptBetween old new))) (hunks old new) :=
  cutInto_ofScript (by decide) _

@[simp]
theorem ofScript_keep (radius len : Nat) : Hunk.ofScript radius [⟨.keep, 0, 0, len⟩] = [] := by
  have hlen : ¬ 2 * radius < min (min len radius) radius := by omega
  show Hunk.cut radius [] [.keep _ _ (min (min len radius) radius)] = []
  rw [Hunk.cut, if_neg hlen]
  rfl

@[simp] theorem hunks_self (lines : Array (List Char)) : hunks lines lines = [] := by
  rw [hunks, scriptBetween_self, Window.editIfSome]
  split
  · rw [settle_of_kept (List.forall_mem_nil _)]
    rfl
  · rw [settle_of_kept (by simp), ofScript_keep]

theorem patches_hunks (old new : Array (List Char)) :
    Patches old new 0 0 (hunks old new) old.size new.size :=
  patches_of_cutInto (cutInto_hunks old new) (tiles_settled old new)
    (connects_settled old new).oldStart_blocks

@[simp] theorem applyTo?_nil (text : String) : Printed.applyTo? [] text = some text := by
  rw [Printed.applyTo?, Printed.replay?, Option.map_some, flatten_endedLines, String.ofList_toList]

@[simp]
theorem applyTo?_patch (old new : String) : Printed.applyTo? (patch old new) old = some new := by
  have hreplay := replay?_patches (patches_hunks (endedLines old.toList).toArray
    (endedLines new.toList).toArray) (Nat.le_refl _)
  rw [Array.extract_size, Array.extract_size] at hreplay
  rw [Printed.applyTo?, patch]
  show Option.map _ (Printed.replay? 0 _ (endedLines old.toList).toArray.toList) = _
  rw [hreplay, Option.map_some, flatten_endedLines, String.ofList_toList]

theorem patch_eq_nil_iff {old new : String} : patch old new = [] ↔ old = new := by
  constructor
  · intro hnil
    have hreplay := applyTo?_patch old new
    rw [hnil, applyTo?_nil] at hreplay
    exact Option.some.inj hreplay
  · rintro rfl
    rw [patch, hunks_self]
    rfl

/-- What is printed for two texts is a patch from one to the other: it has no hunk just if they are
equal, and laid on the first text it gives the second one.  What its headers say beyond that fits just
if the blocks between the texts are noted where the texts start and end. -/
theorem unified_patch (old new path : String) :
    unified old new path =
      s!"--- a/{path}\n+++ b/{path}\n" ++ String.ofList ((patch old new).flatMap Printed.text) ∧
    (patch old new = [] ↔ old = new) ∧ Printed.applyTo? (patch old new) old = some new ∧
    (let oldLines := (endedLines old.toList).toArray
     let newLines := (endedLines new.toList).toArray
     Printed.HeadersFit 0 0 (patch old new) ↔ Spans 0 oldLines.size newLines.size
       (Script.blocks (settle oldLines newLines (scriptBetween oldLines newLines)))) := by
  refine ⟨unified_eq_patch old new path, patch_eq_nil_iff, applyTo?_patch old new, ?_⟩
  exact headersFit_iff (cutInto_hunks _ _) (tiles_settled _ _) (connects_settled _ _).oldStart_blocks
    (Nat.le_refl _) (Nat.le_refl _) rfl

/-- Between these texts the first change is noted at the second line of the new one, and so the header
announces one line on each side where two are printed. -/
theorem unified_patch_moved :
    unified "a\nb\n" "b\nb\n" "services.js" =
      "--- a/services.js\n+++ b/services.js\n@@ -1 +2 @@\n-a\n b\n+b\n" ∧
    (patch "a\nb\n" "b\nb\n").map (fun p => (p.oldLen, p.oldSide.length)) = [(1, 2)] ∧
    Printed.applyTo? (patch "a\nb\n" "b\nb\n") "a\nb\n" = some "b\nb\n" ∧
    ¬ Printed.HeadersFit 0 0 (patch "a\nb\n" "b\nb\n") := by
  obtain ⟨-, -, happly, hfit⟩ := unified_patch "a\nb\n" "b\nb\n" "services.js"
  have hblocks :
      Script.blocks (settle (endedLines "a\nb\n".toList).toArray (endedLines "b\nb\n".toList).toArray
        (scriptBetween (endedLines "a\nb\n".toList).toArray (endedLines "b\nb\n".toList).toArray)) =
      [.change 0 1 1 0, .keep 1 0 1, .change 1 0 1 1] := by
    decide +kernel
  refine ⟨by decide +kernel, by decide +kernel, happly, ?_⟩
  intro h
  have hspans := hfit.1 h
  rw [hblocks] at hspans
  have hfirst := hspans.first
  simp [Block.newStart] at hfirst

end AngularClient.Diff
