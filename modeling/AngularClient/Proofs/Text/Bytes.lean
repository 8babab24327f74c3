import AngularClient.Proofs.Text.Search

namespace AngularClient.Text

section Search

variable {α : Type u} [BEq α] [LawfulBEq α] {word front text : List α}

theorem cut?_append_of_head? (hne : word ≠ []) (h : ∀ a ∈ front, word.head? ≠ some a) :
    cut? word (front ++ text) =
      (cut? word text).map fun (before, after) => (front ++ before, after) := by
  induction front with
  | nil =>
    rw [List.nil_append]
    cases cut? word text <;> rfl
  | cons a front ih =>
    rw [List.forall_mem_cons] at h
    have hp : ¬ word.isPrefixOf (a :: (front ++ text)) = true := by
      rw [List.isPrefixOf_iff_prefix]
      intro hp
      cases word with
      | nil => exact hne rfl
      | cons b word => exact h.1 (congrArg some (List.cons_prefix_cons.1 hp).1)
    rw [List.cons_append, cut?, if_neg hp, ih h.2, Option.map_map]
    rfl

end Search

def bytes (s : List Char) : List UInt8 := s.flatMap String.utf8EncodeChar

variable {s t word text : List Char}

@[simp] theorem bytes_nil : bytes [] = [] := rfl

@[simp] theorem bytes_cons (c : Char) (s : List Char) :
    bytes (c :: s) = String.utf8EncodeChar c ++ bytes s := rfl

@[simp] theorem bytes_append (s t : List Char) : bytes (s ++ t) = bytes s ++ bytes t :=
  List.flatMap_append

@[simp] theorem toByteArray_bytes (s : List Char) : (bytes s).toByteArray = s.utf8Encode := rfl

@[simp] theorem toList_toUTF8 (s : String) : s.toUTF8.data.toList = bytes s.toList := by
  rw [String.toUTF8_eq_toByteArray, ← String.utf8Encode_toList, ← toByteArray_bytes,
    List.toList_data_toByteArray]

@[simp] theorem bytes_prefix_iff : bytes s <+: bytes t ↔ s <+: t := by
  constructor
  · rintro ⟨rest, h⟩
    apply List.isPrefix_of_utf8Encode_append_eq_utf8Encode rest.toByteArray
    rw [← toByteArray_bytes, ← toByteArray_bytes, ← h, List.toByteArray_append]
  · rintro ⟨rest, rfl⟩
    rw [bytes_append]
    exact List.prefix_append _ _

theorem exists_utf8EncodeChar (c : Char) :
    ∃ b rest, String.utf8EncodeChar c = b :: rest ∧ b.IsUTF8FirstByte ∧
      ∀ a ∈ rest, ¬ a.IsUTF8FirstByte := by
  obtain ⟨b, rest, h⟩ := List.exists_cons_of_ne_nil (String.utf8EncodeChar_ne_nil (c := c))
  refine ⟨b, rest, h, ?_, ?_⟩
  · have hfirst := UInt8.isUTF8FirstByte_getElem_zero_utf8EncodeChar (c := c)
    simpa [h] using hfirst
  · intro a ha
    obtain ⟨i, hi, rfl⟩ := List.getElem_of_mem ha
    have hi' : i + 1 < (String.utf8EncodeChar c).length := by
      rw [h]
      exact Nat.succ_lt_succ hi
    have hlater := @UInt8.isUTF8FirstByte_getElem_utf8EncodeChar c (i + 1) hi'
    simpa [h] using hlater

theorem isUTF8FirstByte_of_head? {a : UInt8} (h : (bytes s).head? = some a) :
    a.IsUTF8FirstByte := by
  cases s with
  | nil => cases h
  | cons c s =>
    obtain ⟨b, rest, hc, hb, -⟩ := exists_utf8EncodeChar c
    rw [bytes_cons, hc] at h
    cases h
    exact hb

theorem cut?_bytes (hne : word ≠ []) :
    cut? (bytes word) (bytes text) =
      (cut? word text).map fun (before, after) => (bytes before, bytes after) := by
  have hne' : bytes word ≠ [] := by
    cases word with
    | nil => exact absurd rfl hne
    | cons c word => simp
  induction text with
  | nil =>
    rw [bytes_nil, cut?, cut?, if_neg (by simpa using hne'), if_neg (by simpa using hne)]
    rfl
  | cons c text ih =>
    by_cases hp : word <+: c :: text
    · rw [cut?_of_isPrefix hp, cut?_of_isPrefix (bytes_prefix_iff.2 hp)]
      rfl
    · obtain ⟨b, rest, hc, -, hrest⟩ := exists_utf8EncodeChar c
      have hp' : ¬ bytes word <+: bytes (c :: text) := fun h => hp (bytes_prefix_iff.1 h)
      have hpass : ∀ a ∈ rest, (bytes word).head? ≠ some a :=
        fun a ha h => hrest a ha (isUTF8FirstByte_of_head? h)
      rw [cut?, if_neg (by rwa [List.isPrefixOf_iff_prefix])]
      rw [bytes_cons, hc, List.cons_append] at hp' ⊢
      rw [cut?, if_neg (by rwa [List.isPrefixOf_iff_prefix]), cut?_append_of_head? hne' hpass, ih]
      cases cut? word text with
      | none => rfl
      | some parts => simp [hc]

end AngularClient.Text
