import AngularClient.Proofs.Files.Output
import AngularClient.Proofs.Text.Bytes
import AngularClient.Proofs.Text.Replace

namespace AngularClient.Output

structure PartedAtMarker (content before block : List UInt8) : Prop where
  parts : content = before ++ block
  marked : Text.bytes marker.toList <+: block
  first : ∀ other rest, content = other ++ rest → Text.bytes marker.toList <+: rest →
    before.length ≤ other.length

variable {store : FileStore} {path text : String} {old : ByteArray} {before after : List UInt8}

theorem PartedAtMarker.of_cut? {content : List UInt8}
    (h : Text.cut? (Text.bytes marker.toList) content = some (before, after)) :
    PartedAtMarker content before after where
  parts := Text.append_of_cut?_eq_some h
  marked := List.isPrefixOf_iff_prefix.1 (Text.isPrefixOf_of_cut?_eq_some h)
  first := fun _ _ hparts hrest => Text.length_le_of_cut?_eq_some h hparts hrest

theorem bytes_block
    (h : Text.cut? (Text.bytes marker.toList) (Text.bytes text.toList) = some (before, after)) :
    Text.bytes (block (some text)).toList = after := by
  rw [Text.cut?_bytes (by decide), Option.map_eq_some_iff] at h
  obtain ⟨⟨b, a⟩, hcut, hparts⟩ := h
  cases hparts
  rw [block, Option.bind_some, cut?, hcut]
  simp

theorem readText?_eq_none (hread : store.read? path = some old) (h : ¬ old.IsValidUTF8) :
    store.readText? path = none := by
  rw [FileStore.readText?, hread, Option.bind_eq_bind, Option.bind_some, String.fromUTF8?,
    dif_neg h]

theorem exists_text (h : old.IsValidUTF8) : ∃ text : String, old = text.toUTF8 :=
  ⟨⟨old, h⟩, rfl⟩

theorem toList_merged (generated : String) (hread : store.read? path = some old)
    (h : Text.cut? (Text.bytes marker.toList) old.data.toList = some (before, after)) :
    (old.IsValidUTF8 → (merged store path generated).toUTF8.data.toList =
      generated.toUTF8.data.toList ++ after) ∧
    (¬ old.IsValidUTF8 → merged store path generated = generated) := by
  rw [merged_eq]
  constructor
  · intro hvalid
    obtain ⟨text, rfl⟩ := exists_text hvalid
    rw [Text.toList_toUTF8] at h
    rw [FileStore.readText?_eq_some_iff.2 hread, Text.toList_toUTF8, Text.toList_toUTF8,
      String.toList_append, Text.bytes_append, bytes_block h]
  · intro hinvalid
    rw [readText?_eq_none hread hinvalid]
    exact String.append_empty

/-- Writing over a file with a marker in it either changes nothing or replaces all before the first
marker, where the file is a text.  Where it is none all of it is replaced, and then it ends with the
user's block only if the generated text does. -/
theorem ends_with_block_iff (hread : store.read? path = some old)
    (hmarked : Text.bytes marker.toList <:+: old.data.toList) (generated : String) :
    ∃ before block, PartedAtMarker old.data.toList before block ∧
      (write store path generated = (store, false) ∨
        ∃ after new, write store path generated = (after, true) ∧ after.read? path = some new ∧
          (old.IsValidUTF8 → new.data.toList = generated.toUTF8.data.toList ++ block) ∧
          (¬ old.IsValidUTF8 → new = generated.toUTF8) ∧
          (block <:+ new.data.toList ↔
            old.IsValidUTF8 ∨ block <:+ generated.toUTF8.data.toList)) := by
  obtain ⟨before, rest, hcut, -⟩ := Text.exists_cut? hmarked
  refine ⟨before, _, .of_cut? hcut, ?_⟩
  obtain ⟨hvalid, hinvalid⟩ := toList_merged generated hread hcut
  rcases FileStore.write_of_read? hread (merged store path generated).toUTF8 with hwrite | hwrite
  · exact .inl hwrite
  · obtain ⟨after, hwrite, hnew⟩ := hwrite
    refine .inr ⟨after, _, hwrite, hnew, hvalid, fun h => by rw [hinvalid h], ?_⟩
    by_cases h : old.IsValidUTF8
    · rw [hvalid h]
      exact iff_of_true (List.suffix_append _ _) (.inl h)
    · rw [hinvalid h]
      exact (or_iff_right h).symm

/-- A script whose user has added a comment in an encoding of its own, where é is a single byte. -/
def latin : FileStore :=
  [("out.js", .file ("old\n// === LBNG:CUSTOM ===\n// caf".toUTF8.push 0xE9))]

/-- The comment is gone after the next generation. -/
theorem ends_with_block_iff_latin :
    ∃ old, latin.read? "out.js" = some old ∧ Text.bytes marker.toList <:+: old.data.toList ∧
      ∃ before block, PartedAtMarker old.data.toList before block ∧
        ∃ after, write latin "out.js" "new\n" = (after, true) ∧
          after.read? "out.js" = some "new\n".toUTF8 ∧
            ¬ block <:+ "new\n".toUTF8.data.toList := by
  have hread : latin.read? "out.js" =
      some ("old\n// === LBNG:CUSTOM ===\n// caf".toUTF8.push 0xE9) := rfl
  have hmarked : Text.bytes marker.toList <:+:
      ("old\n// === LBNG:CUSTOM ===\n// caf".toUTF8.push 0xE9).data.toList := by decide
  have hinvalid : ¬ ("old\n// === LBNG:CUSTOM ===\n// caf".toUTF8.push 0xE9).IsValidUTF8 := by
    decide
  obtain ⟨before, block, hparted, hwrite⟩ := ends_with_block_iff hread hmarked "new\n"
  refine ⟨_, hread, hmarked, before, block, hparted, ?_⟩
  rcases hwrite with hwrite | ⟨after, new, hwrite, hnew, -, hlost, hiff⟩
  · have hdone : (write latin "out.js" "new\n").2 = true := by decide +kernel
    rw [hwrite] at hdone
    cases hdone
  · obtain rfl := hlost hinvalid
    refine ⟨after, hwrite, hnew, ?_⟩
    rw [hiff, or_iff_right hinvalid]
    intro hsuffix
    have hmarker := hparted.marked.isInfix.trans hsuffix.isInfix
    exact absurd hmarker (by decide)

end AngularClient.Output
