import AngularClient.CommandLine.Run
import AngularClient.Proofs.Files.Store
import AngularClient.Proofs.Text.Search
import Mathlib.Data.List.Induction
import Mathlib.Data.List.Infix

namespace AngularClient.Output

/-- A text in which the marker does not stand. -/
def Unmarked (text : String) : Prop := ¬ marker.toList <:+: text.toList

instance (text : String) : Decidable (Unmarked text) :=
  inferInstanceAs (Decidable (¬ marker.toList <:+: text.toList))

/-- What belongs to the user of a file, if it can be read: all from the first marker on. -/
def IsBlock : Option String → String → Prop
  | none, block => block = ""
  | some text, block => (Unmarked text ∧ block = "") ∨
      ∃ before, text = before ++ block ∧ marker.toList <+: block.toList ∧
        ∀ other rest, text = other ++ rest → marker.toList <+: rest.toList →
          before.length ≤ other.length

def block (initial : Option String) : String := ((initial.bind cut?).map Prod.snd).getD ""

def regenerate (store : FileStore) (path : String) (texts : List String) : FileStore :=
  texts.foldl (fun store text => (write store path text).1) store

variable {store : FileStore} {path generated text : String} {route : Route}
  {initial : Option String}

theorem unbordered_marker : Text.Unbordered marker.toList :=
  Text.unbordered_of_tails (by decide)

@[simp] theorem cut?_eq_none_iff : cut? text = none ↔ Unmarked text := by
  rw [cut?, Option.map_eq_none_iff, Text.cut?_eq_none_iff, Unmarked]

theorem isBlock_block : IsBlock initial (block initial) := by
  cases initial with
  | none => rfl
  | some text =>
    rw [block, Option.bind_some]
    cases hcut : cut? text with
    | none => exact .inl ⟨cut?_eq_none_iff.1 hcut, rfl⟩
    | some parts =>
      obtain ⟨⟨before, after⟩, hparts, rfl⟩ := Option.map_eq_some_iff.1 hcut
      refine .inr ⟨String.ofList before, ?_, ?_, ?_⟩
      · apply String.toList_injective
        simpa using Text.append_of_cut?_eq_some hparts
      · simpa using Text.isPrefixOf_of_cut?_eq_some hparts
      · intro other rest htext hrest
        have hchars : text.toList = other.toList ++ rest.toList := by
          rw [htext, String.toList_append]
        have hle := Text.length_le_of_cut?_eq_some hparts hchars hrest
        simpa only [String.length_ofList, String.length_toList] using hle

@[simp] theorem block_append (h : Unmarked generated) :
    block (some (generated ++ block initial)) = block initial := by
  rcases hb : initial.bind cut? with _ | ⟨before, after⟩
  · have hblock : block initial = "" := by rw [block, hb]; rfl
    rw [hblock, String.append_empty, block, Option.bind_some, cut?_eq_none_iff.2 h]
    rfl
  · have hblock : block initial = after := by rw [block, hb]; rfl
    obtain ⟨text, -, hcut⟩ := Option.bind_eq_some_iff.1 hb
    obtain ⟨⟨b, a⟩, hparts, heq⟩ := Option.map_eq_some_iff.1 hcut
    cases heq
    -- a block begins with the marker, and so is found again right at the seam
    have hafter := List.isPrefixOf_iff_prefix.1 (Text.isPrefixOf_of_cut?_eq_some hparts)
    have happend := Text.cut?_append unbordered_marker h hafter
    rw [hblock, block, Option.bind_some, cut?, String.toList_append, String.toList_ofList, happend]
    rfl

theorem length_lt_block_append (h : ¬ Unmarked generated) (suffix : String) :
    suffix.length < (block (some (generated ++ suffix))).length := by
  rw [Unmarked, not_not] at h
  cases hcut : cut? (generated ++ suffix) with
  | none =>
    rw [cut?_eq_none_iff, Unmarked, String.toList_append] at hcut
    exact absurd (h.trans (List.prefix_append _ _).isInfix) hcut
  | some parts =>
    obtain ⟨⟨before, after⟩, hparts, rfl⟩ := Option.map_eq_some_iff.1 hcut
    obtain ⟨other, rest, hgenerated⟩ := h
    have hchars : (generated ++ suffix).toList = other ++ (marker.toList ++ rest ++ suffix.toList) := by
      rw [String.toList_append, ← hgenerated]
      simp only [List.append_assoc]
    have hle := Text.length_le_of_cut?_eq_some hparts hchars
      ((List.prefix_append _ _).trans (List.prefix_append _ _))
    have hlength := congrArg List.length (hchars.symm.trans (Text.append_of_cut?_eq_some hparts))
    have hmarker : 0 < marker.toList.length := by decide
    simp only [List.length_append, String.length_toList] at hlength hmarker
    have hblock : block (some (generated ++ suffix)) = String.ofList after := by
      rw [block, Option.bind_some, hcut]
      rfl
    rw [hblock, String.length_ofList]
    omega

theorem append_block_append_iff :
    generated ++ block (some (generated ++ block initial)) = generated ++ block initial ↔
      Unmarked generated := by
  constructor
  · intro h
    by_contra hmarked
    have hlt := length_lt_block_append hmarked (block initial)
    have hlength := congrArg String.length h
    rw [String.length_append, String.length_append] at hlength
    omega
  · intro h
    rw [block_append h]

theorem merged_eq : merged store path generated = generated ++ block (store.readText? path) := by
  simp only [merged, parts?, block, Option.bind_eq_bind]
  cases (store.readText? path).bind cut? with
  | none => simp
  | some parts => rfl

section Ready

variable (h : store.Ready path route)
include h

theorem readText?_put (text : String) : (store.put route text.toUTF8).readText? path = some text :=
  FileStore.readText?_eq_some_iff.2 (h.read?_put _)

theorem write_over (old text : String) :
    write (store.put route old.toUTF8) path text =
      (store.put route (text ++ block (some old)).toUTF8, true) := by
  rw [write, FileStore.writeText, (h.put _).write_eq, FileStore.put_put, merged_eq, readText?_put h]

theorem write_put (hg : Unmarked generated) (text : String) :
    write (store.put route (generated ++ block initial).toUTF8) path text =
      (store.put route (text ++ block initial).toUTF8, true) := by
  rw [write_over h, block_append hg]

end Ready

theorem exists_ready_regenerate (h : store.Writable path route) :
    ∃ made : FileStore, made.Ready path route ∧ ∀ (texts : List String) (generated : String),
      (∀ text ∈ texts, Unmarked text) →
        write (regenerate store path texts) path generated =
          (made.put route (generated ++ block (store.readText? path)).toUTF8, true) := by
  obtain ⟨made, hready, hwrite⟩ := h.exists_ready
  refine ⟨made, hready, ?_⟩
  intro texts
  -- from the end of the run, as the last generation finds what the ones before it left
  induction texts using List.reverseRecOn with
  | nil =>
    intro generated _
    rw [regenerate, List.foldl_nil, write, FileStore.writeText, hwrite, merged_eq]
  | append_singleton texts text ih =>
    intro generated hall
    rw [List.forall_mem_append, List.forall_mem_singleton] at hall
    have hlast : regenerate store path (texts ++ [text]) =
        made.put route (text ++ block (store.readText? path)).toUTF8 := by
      rw [regenerate, List.foldl_concat, ← regenerate, ih text hall.1]
    rw [hlast, write_put hready hall.2]

@[simp] theorem compare_eq_upToDate_iff :
    compare store path generated = .upToDate ↔
      store.readText? path = some (merged store path generated) := by
  unfold compare
  cases store.readText? path with
  | none => simp
  | some current => by_cases h : current = merged store path generated <;> simp [h]

@[simp] theorem read?_write (h : store.Writable path route) (generated : String) :
    (write store path generated).1.read? path = some (merged store path generated).toUTF8 := by
  obtain ⟨made, hready, hwrite⟩ := h.exists_ready
  rw [write, FileStore.writeText, hwrite, hready.read?_put]

@[simp] theorem checkFile_result_iff (s : Surroundings) :
    (Command.checkFile s store path generated).result = .ok () ↔
      compare store path generated = .upToDate := by
  unfold Command.checkFile
  cases compare store path generated <;> simp [Outcome.silent]

@[simp] theorem files_checkFile (s : Surroundings) :
    (Command.checkFile s store path generated).files = store := by
  unfold Command.checkFile
  cases compare store path generated <;> rfl

/-- Generating keeps the user's block of a file, at any length of the run; generating again changes
nothing; and a check succeeds on just the files that generating would leave as they are. -/
theorem regenerated (h : store.Writable path route) :
    ∃ block, IsBlock (store.readText? path) block ∧
      (∀ (texts : List String) (generated : String),
        (∀ text ∈ texts ++ [generated], Unmarked text) →
          (write (regenerate store path texts) path generated).2 = true ∧
            (regenerate store path (texts ++ [generated])).readText? path =
              some (generated ++ block) ∧
            write (regenerate store path (texts ++ [generated])) path generated =
              (regenerate store path (texts ++ [generated]), true)) ∧
      ∀ (s : Surroundings) (generated : String), Unmarked generated →
        (Command.checkFile s store path generated).files = store ∧
          ((Command.checkFile s store path generated).result = .ok () ↔
            ∃ content, store.read? path = some content ∧
              (write store path generated).1.read? path = some content) := by
  obtain ⟨made, hready, hwrite⟩ := exists_ready_regenerate h
  refine ⟨block (store.readText? path), isBlock_block, ?_, ?_⟩
  · intro texts generated hall
    rw [List.forall_mem_append, List.forall_mem_singleton] at hall
    have hlast := hwrite texts generated hall.1
    have hrun : regenerate store path (texts ++ [generated]) =
        made.put route (generated ++ block (store.readText? path)).toUTF8 := by
      rw [regenerate, List.foldl_concat, ← regenerate, hlast]
    refine ⟨by rw [hlast], ?_, ?_⟩
    · rw [hrun, readText?_put hready]
    · rw [hrun, write_put hready hall.2]
  · intro s generated _
    refine ⟨files_checkFile s, ?_⟩
    rw [checkFile_result_iff, compare_eq_upToDate_iff, FileStore.readText?_eq_some_iff,
      read?_write h]
    constructor
    · intro hread
      exact ⟨_, hread, rfl⟩
    · rintro ⟨content, hread, hcontent⟩
      rw [hread, hcontent]

def scripts : FileStore :=
  [("js", .directory), ("js/out.js", .file "old\n// === LBNG:CUSTOM ===\nmine\n".toUTF8)]

theorem regenerated_scripts :
    scripts.Writable "js/out.js" ⟨"js", [["js"]], ["js", "out.js"], false⟩ ∧
      (∀ text ∈ ["one /", "two //"] ++ ["three // ==="], Unmarked text) ∧
        ∃ block, marker.toList <+: block.toList ∧
          (regenerate scripts "js/out.js" ["one /", "two //", "three // ==="]).readText? "js/out.js" =
            some ("three // ===" ++ block) := by
  have hw : scripts.Writable "js/out.js" ⟨"js", [["js"]], ["js", "out.js"], false⟩ := {
    leads := by decide
    allowed := by decide
    parentAllowed := by decide
    nameable := by decide
    entry := by decide
    free := by decide
    through := by decide }
  have hall : ∀ text ∈ ["one /", "two //"] ++ ["three // ==="], Unmarked text := by decide
  have hread : scripts.readText? "js/out.js" = some "old\n// === LBNG:CUSTOM ===\nmine\n" := by
    rw [FileStore.readText?_eq_some_iff]
    rfl
  obtain ⟨block, hblock, hrun, -⟩ := regenerated hw
  refine ⟨hw, hall, block, ?_, (hrun _ _ hall).2.1⟩
  rw [hread] at hblock
  rcases hblock with ⟨hnone, -⟩ | ⟨before, -, hprefix, -⟩
  · exact absurd hnone (by decide)
  · exact hprefix

end AngularClient.Output
