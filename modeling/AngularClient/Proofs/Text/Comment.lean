import AngularClient.Proofs.Text.Replace
import AngularClient.Text.Quoting

namespace AngularClient.Text

def commentEnd : List Char := ['*', '/']

def LeavesOpen (s : String) : Prop := ¬ commentEnd <:+: s.toList

instance (s : String) : Decidable (LeavesOpen s) :=
  decidable_of_iff (¬ occursIn commentEnd s.toList = true) (not_congr occursIn_iff)

section KeepOpen

@[simp] theorem head?_keepOpen (s : List Char) : (keepOpen s).head? = s.head? := by
  cases s using keepOpen.induct with
  | case1 rest ih => rfl
  | case2 c rest h ih => rw [keepOpen.eq_2 c rest h]; rfl
  | case3 => rfl

theorem commentEnd_prefix_cons_iff {c : Char} {s : List Char} :
    commentEnd <+: c :: s ↔ c = '*' ∧ s.head? = some '/' := by
  rw [commentEnd, List.cons_prefix_cons, eq_comm]
  cases s with
  | nil => simp
  | cons d s => simp [List.cons_prefix_cons, eq_comm]

theorem not_infix_keepOpen (s : List Char) : ¬ commentEnd <:+: keepOpen s := by
  induction s using keepOpen.induct with
  | case1 rest ih => simp [keepOpen, List.infix_cons_iff, commentEnd_prefix_cons_iff, ih]
  | case2 c rest h ih =>
    rw [keepOpen.eq_2 c rest h, List.infix_cons_iff, commentEnd_prefix_cons_iff, head?_keepOpen]
    rintro (⟨rfl, hhead⟩ | hrest)
    · obtain ⟨rest', rfl⟩ := List.head?_eq_some_iff.1 hhead
      exact h rest' rfl rfl
    · exact ih hrest
  | case3 => simp [keepOpen, commentEnd]

theorem leavesOpen_commentLine (s : String) : LeavesOpen (commentLine s) := by
  rw [LeavesOpen, commentLine, String.toList_ofList]
  exact not_infix_keepOpen s.toList

theorem leavesOpen_of_mem_commentLines {s line : String} (h : line ∈ commentLines s) :
    LeavesOpen line := by
  obtain ⟨l, -, rfl⟩ := List.mem_map.1 h
  rw [LeavesOpen, String.toList_ofList]
  exact not_infix_keepOpen l

end KeepOpen

section Words

variable {α : Type u} {word : List α}

theorem infix_intercalate_iff {c : α} (hc : c ∉ word) (hne : word ≠ []) {texts : List (List α)} :
    word <:+: [c].intercalate texts ↔ ∃ text ∈ texts, word <:+: text := by
  induction texts with
  | nil => simp [hne]
  | cons text texts ih =>
    cases texts with
    | nil => simp [List.intercalate_singleton]
    | cons next texts =>
      rw [List.intercalate_cons_cons, List.append_assoc, List.singleton_append,
        infix_append_cons_iff hc hne, ih]
      simp only [List.exists_mem_cons_iff]

theorem infix_splitOnP_iff {p : α → Bool} (hword : ∀ c ∈ word, p c = false) (hne : word ≠ [])
    (text : List α) : word <:+: text ↔ ∃ piece ∈ text.splitOnP p, word <:+: piece := by
  induction hlength : text.length using Nat.strong_induction_on generalizing text with
  | h n ih =>
    by_cases hp : ∀ c ∈ text, p c = false
    · simp [List.splitOnP_eq_singleton hp]
    · push Not at hp
      obtain ⟨c, hmem, hpc⟩ := hp
      obtain ⟨before, after, rfl⟩ := List.append_of_mem hmem
      rw [List.length_append, List.length_cons] at hlength
      have hpc : p c = true := by simpa using hpc
      have hc : c ∉ word := by
        intro hcw
        rw [hword c hcw] at hpc
        cases hpc
      rw [infix_append_cons_iff hc hne, List.splitOnP_append_cons _ _ hpc,
        ih before.length (by omega) before rfl, ih after.length (by omega) after rfl]
      simp only [List.mem_append, or_and_right, exists_or]

@[simp]
theorem leavesOpen_singleLine_iff {s : String} : LeavesOpen (singleLine s) ↔ LeavesOpen s := by
  have hne : commentEnd ≠ [] := List.cons_ne_nil _ _
  have hspace : ' ' ∉ commentEnd := by simp [commentEnd]
  have hblank : ∀ c ∈ commentEnd, isBlank c = false := by simp [commentEnd, isBlank]
  rw [LeavesOpen, LeavesOpen, singleLine, String.toList_ofList, infix_intercalate_iff hspace hne,
    infix_splitOnP_iff hblank hne s.toList]
  apply not_congr
  constructor
  · rintro ⟨w, hw, hinfix⟩
    exact ⟨w, List.mem_of_mem_filter hw, hinfix⟩
  · rintro ⟨w, hw, hinfix⟩
    have hwne : w ≠ [] := by
      rintro rfl
      exact hne (List.infix_nil.1 hinfix)
    exact ⟨w, List.mem_filter.2 ⟨hw, by simpa using hwne⟩, hinfix⟩

end Words

end AngularClient.Text
