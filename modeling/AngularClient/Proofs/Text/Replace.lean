import AngularClient.Proofs.Text.Search

namespace AngularClient.Text

variable {α : Type u}

@[simp] theorem prefix_append_cons_iff {c : α} {word before after : List α} (hc : c ∉ word) :
    word <+: before ++ c :: after ↔ word <+: before := by
  constructor
  · intro h
    rcases List.prefix_or_prefix_of_prefix h (List.prefix_append before (c :: after)) with h | h
    · exact h
    · obtain ⟨rest, rfl⟩ := h
      cases rest with
      | nil => simp
      | cons d rest =>
        have hd : d :: rest <+: c :: after := by simpa using h
        rw [List.cons_prefix_cons] at hd
        obtain ⟨rfl, -⟩ := hd
        exact absurd (List.mem_append_right _ List.mem_cons_self) hc
  · intro h
    exact h.trans (List.prefix_append _ _)

@[simp] theorem infix_append_cons_iff {c : α} {word before after : List α} (hc : c ∉ word)
    (hne : word ≠ []) :
    word <:+: before ++ c :: after ↔ word <:+: before ∨ word <:+: after := by
  induction before with
  | nil =>
    have hp : ¬ word <+: c :: after := by
      have hnil : word <+: [] ++ c :: after ↔ word <+: [] := prefix_append_cons_iff hc
      rw [List.prefix_nil] at hnil
      exact mt hnil.1 hne
    simp [List.infix_cons_iff, hp, hne]
  | cons d before ih =>
    have hp : word <+: d :: before ++ c :: after ↔ word <+: d :: before :=
      prefix_append_cons_iff hc
    rw [List.cons_append] at hp ⊢
    rw [List.infix_cons_iff, ih, hp, List.infix_cons_iff, or_assoc]

@[simp]
theorem infix_cons_iff_of_not_mem {c : α} {word text : List α} (hc : c ∉ word) (hne : word ≠ []) :
    word <:+: c :: text ↔ word <:+: text := by
  have h : word <:+: [] ++ c :: text ↔ word <:+: [] ∨ word <:+: text :=
    infix_append_cons_iff hc hne
  rwa [List.infix_nil, or_iff_right hne, List.nil_append] at h

theorem append_cons_inj {c : α} {before before' after after' : List α}
    (h : c ∉ before) (h' : c ∉ before') :
    before ++ c :: after = before' ++ c :: after' ↔ before = before' ∧ after = after' := by
  constructor
  · intro heq
    induction before generalizing before' with
    | nil =>
      cases before' with
      | nil =>
        cases heq
        exact ⟨rfl, rfl⟩
      | cons d before' =>
        cases heq
        exact absurd List.mem_cons_self h'
    | cons d before ih =>
      cases before' with
      | nil =>
        cases heq
        exact absurd List.mem_cons_self h
      | cons e before' =>
        rw [List.cons_append, List.cons_append, List.cons.injEq] at heq
        obtain ⟨rfl, heq⟩ := heq
        obtain ⟨rfl, rfl⟩ := ih (List.not_mem_of_not_mem_cons h) (List.not_mem_of_not_mem_cons h') heq
        exact ⟨rfl, rfl⟩
  · rintro ⟨rfl, rfl⟩
    rfl

theorem append_append_ne {c : α} {word : List α} (hc : c ∉ word) (hne : word ≠ [])
    (middle after rest : List α) : word ++ (middle ++ after) ≠ middle ++ c :: rest := by
  intro h
  rcases List.append_eq_append_iff.1 h with ⟨middle', rfl, h'⟩ | ⟨word', rfl, h'⟩
  · -- the word is the beginning of `middle`, and what is left of that is shorter
    have hlength : middle'.length < (word ++ middle').length := by
      rw [List.length_append]
      exact Nat.lt_add_of_pos_left (List.length_pos_iff.2 hne)
    rw [List.append_assoc] at h'
    exact append_append_ne hc hne middle' after rest h'
  · cases word' with
    | nil =>
      cases middle with
      | nil => exact hne rfl
      | cons d middle =>
        cases h'
        exact hc (by simp)
    | cons d word' =>
      cases h'
      exact hc (by simp)
termination_by middle.length

section Replace

variable [BEq α] [LawfulBEq α] {c : α} {word replacement text before after : List α}

@[simp] theorem replaceFirst_of_absent (h : ¬ word <:+: text) :
    replaceFirst word replacement text = text := by
  rw [replaceFirst, cut?_eq_none_iff.2 h]

theorem replaceFirst_cons (hc : c ∉ word) (hne : word ≠ []) :
    replaceFirst word replacement (c :: text) = c :: replaceFirst word replacement text := by
  cases word with
  | nil => exact absurd rfl hne
  | cons a word => exact replaceFirst_cons_of_ne (List.ne_of_not_mem_cons hc).symm

theorem exists_cut? (h : word <:+: text) :
    ∃ before after, cut? word text = some (before, word ++ after) ∧
      text = before ++ (word ++ after) := by
  cases hcut : cut? word text with
  | none => exact absurd h (cut?_eq_none_iff.1 hcut)
  | some found =>
    obtain ⟨before, rest⟩ := found
    obtain ⟨after, rfl⟩ := List.isPrefixOf_iff_prefix.1 (isPrefixOf_of_cut?_eq_some hcut)
    exact ⟨before, after, rfl, append_of_cut?_eq_some hcut⟩

omit [LawfulBEq α] in
theorem replaceFirst_of_cut? (h : cut? word text = some (before, word ++ after)) :
    replaceFirst word replacement text = before ++ (replacement ++ after) := by
  rw [replaceFirst, h]
  simp

theorem length_replaceFirst (replacement : List α) (h : word <:+: text) :
    (replaceFirst word replacement text).length + word.length =
      text.length + replacement.length := by
  obtain ⟨before, after, hcut, htext⟩ := exists_cut? h
  rw [replaceFirst_of_cut? hcut, htext]
  simp only [List.length_append]
  omega

theorem infix_replaceFirst (hr : word <+: replacement) (h : word <:+: text) :
    word <:+: replaceFirst word replacement text := by
  obtain ⟨before, after, hcut, -⟩ := exists_cut? h
  rw [replaceFirst_of_cut? hcut]
  exact (hr.isInfix.trans (List.prefix_append _ after).isInfix).trans
    (List.suffix_append before _).isInfix

theorem not_infix_of_cut? (hne : word ≠ []) (h : cut? word text = some (before, word ++ after)) :
    ¬ word <:+: before := by
  rintro ⟨first, last, rfl⟩
  have htext : text = first ++ (word ++ (last ++ (word ++ after))) := by
    rw [append_of_cut?_eq_some h]
    simp
  have hlength := length_le_of_cut?_eq_some h htext (List.prefix_append _ _)
  have hpos := List.length_pos_iff.2 hne
  simp only [List.length_append] at hlength
  omega

section Unbordered

variable (hword : Unbordered word) (hne : word ≠ [])
include hword hne

theorem replaceFirst_append (h : word <:+: before) :
    replaceFirst word replacement (before ++ after) =
      replaceFirst word replacement before ++ after := by
  obtain ⟨first, last, hcut, rfl⟩ := exists_cut? h
  have hcut' : cut? word (first ++ (word ++ last) ++ after) =
      some (first, word ++ (last ++ after)) := by
    rw [List.append_assoc, List.append_assoc]
    exact cut?_append hword (not_infix_of_cut? hne hcut) (List.prefix_append _ _)
  rw [replaceFirst_of_cut? hcut, replaceFirst_of_cut? hcut']
  simp only [List.append_assoc]

theorem replaceFirst_append_cons (hc : c ∉ word) (h : ¬ word <:+: before) :
    replaceFirst word replacement (before ++ c :: after) =
      before ++ c :: replaceFirst word replacement after := by
  by_cases hafter : word <:+: after
  · obtain ⟨first, last, hcut, rfl⟩ := exists_cut? hafter
    have hfirst : ¬ word <:+: before ++ c :: first := by
      rw [infix_append_cons_iff hc hne, not_or]
      exact ⟨h, not_infix_of_cut? hne hcut⟩
    have hcut' : cut? word (before ++ c :: (first ++ (word ++ last))) =
        some (before ++ c :: first, word ++ last) := by
      have hseam := cut?_append hword hfirst (List.prefix_append word last)
      rwa [List.append_assoc, List.cons_append] at hseam
    rw [replaceFirst_of_cut? hcut, replaceFirst_of_cut? hcut', List.append_assoc, List.cons_append]
  · have hnone : ¬ word <:+: before ++ c :: after := by
      rw [infix_append_cons_iff hc hne, not_or]
      exact ⟨h, hafter⟩
    rw [replaceFirst_of_absent hafter, replaceFirst_of_absent hnone]

theorem replaceFirst_inj {other : List α} (hr : word <+: replacement) (ht : word <:+: text)
    (ho : word <:+: other)
    (h : replaceFirst word replacement text = replaceFirst word replacement other) :
    text = other := by
  obtain ⟨before, after, hcut, rfl⟩ := exists_cut? ht
  obtain ⟨before', after', hcut', rfl⟩ := exists_cut? ho
  rw [replaceFirst_of_cut? hcut, replaceFirst_of_cut? hcut'] at h
  have hfound := cut?_append hword (not_infix_of_cut? hne hcut)
    (hr.trans (List.prefix_append _ after))
  rw [h, cut?_append hword (not_infix_of_cut? hne hcut')
    (hr.trans (List.prefix_append _ after'))] at hfound
  obtain ⟨rfl, hrest⟩ := Prod.mk.inj (Option.some.inj hfound)
  rw [List.append_cancel_left hrest]

end Unbordered

theorem replaceFirst_append_ne (more : List α) (hc : c ∉ more) (hne : more ≠ [])
    (h : word <:+: text) (after rest : List α) :
    replaceFirst word (word ++ more) text ++ after ≠ text ++ c :: rest := by
  obtain ⟨first, last, hcut, rfl⟩ := exists_cut? h
  rw [replaceFirst_of_cut? hcut]
  simp only [List.append_assoc, ne_eq, List.append_cancel_left_eq]
  exact append_append_ne hc hne last after rest

end Replace

section Map

variable {α : Type u} [BEq α] [LawfulBEq α] {f : α → α} {word replacement : List α}

theorem isPrefixOf_map (hf : ∀ c ∈ word, ∀ a, f a = c ↔ a = c) (text : List α) :
    word.isPrefixOf (text.map f) = word.isPrefixOf text := by
  induction text generalizing word with
  | nil => rfl
  | cons a text ih =>
    cases word with
    | nil => rfl
    | cons c word =>
      rw [List.forall_mem_cons] at hf
      have hhead : (c == f a) = (c == a) := by
        rw [Bool.eq_iff_iff, beq_iff_eq, beq_iff_eq, eq_comm, hf.1, eq_comm]
      rw [List.map_cons, List.isPrefixOf, List.isPrefixOf, hhead, ih hf.2]

theorem cut?_map (hf : ∀ c ∈ word, ∀ a, f a = c ↔ a = c) (text : List α) :
    cut? word (text.map f) =
      (cut? word text).map fun (before, after) => (before.map f, after.map f) := by
  induction text with
  | nil =>
    rw [List.map_nil, cut?]
    split <;> rfl
  | cons a text ih =>
    have hprefix := isPrefixOf_map hf (a :: text)
    rw [List.map_cons] at hprefix ⊢
    rw [cut?, cut?, hprefix]
    split
    · rfl
    · rw [ih, Option.map_map, Option.map_map]
      rfl

theorem replaceFirst_map (hf : ∀ c ∈ word, ∀ a, f a = c ↔ a = c)
    (hr : replacement.map f = replacement) (text : List α) :
    replaceFirst word replacement (text.map f) = (replaceFirst word replacement text).map f := by
  rw [replaceFirst, replaceFirst, cut?_map hf]
  cases cut? word text with
  | none => rfl
  | some found => simp [hr]

end Map

end AngularClient.Text
