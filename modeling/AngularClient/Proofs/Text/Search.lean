import AngularClient.Text.Basic
import Mathlib.Data.List.Infix

namespace AngularClient.Text

variable {α : Type u} [BEq α] [LawfulBEq α]

@[simp] theorem occursIn_iff {word text : List α} : occursIn word text = true ↔ word <:+: text := by
  induction text with
  | nil =>
    cases word with
    | nil => simp [occursIn, cut?]
    | cons c word => simp [occursIn, cut?]
  | cons c rest ih =>
    rw [List.infix_cons_iff, ← ih]
    simp only [occursIn, cut?]
    split
    · next h => simp [List.isPrefixOf_iff_prefix.1 h]
    · next h =>
      have hp : ¬ word <+: c :: rest := by rwa [← List.isPrefixOf_iff_prefix]
      simp [hp]

@[simp] theorem replaceFirst_cons_of_ne {a c : α} {word replacement rest : List α} (h : a ≠ c) :
    replaceFirst (a :: word) replacement (c :: rest) =
      c :: replaceFirst (a :: word) replacement rest := by
  have hp : (a == c) = false := by simpa using h
  simp only [replaceFirst, cut?, List.isPrefixOf, hp, Bool.false_and]
  cases cut? (a :: word) rest with
  | none => rfl
  | some found => rfl

/-- A word of which no proper part is both its end and its beginning. -/
def Unbordered (word : List α) : Prop := ∀ v, v <:+ word → v <+: word → v = [] ∨ v = word

omit [BEq α] [LawfulBEq α] in
theorem unbordered_of_tails {word : List α}
    (h : ∀ v ∈ word.tails, v <+: word → v = [] ∨ v = word) : Unbordered word := by
  intro v hv
  exact h v ((List.mem_tails v _).2 hv)

@[simp] theorem cut?_of_isPrefix {word text : List α} (h : word <+: text) :
    cut? word text = some ([], text) := by
  cases text with
  | nil => simp [cut?, List.prefix_nil.1 h]
  | cons c rest => simp [cut?, List.isPrefixOf_iff_prefix.2 h]

/-- An unbordered word that begins one text and does not stand in another cannot lie across the seam
where the first is put behind the second. -/
theorem cut?_append {word before after : List α} (hword : Unbordered word)
    (hbefore : ¬ word <:+: before) (hafter : word <+: after) :
    cut? word (before ++ after) = some (before, after) := by
  induction before with
  | nil => exact cut?_of_isPrefix hafter
  | cons c before ih =>
    have hp : ¬ word <+: c :: (before ++ after) := by
      intro hp
      have hc : c :: before <+: c :: (before ++ after) := List.prefix_append (c :: before) after
      rcases List.prefix_or_prefix_of_prefix hp hc with hp' | ⟨v, rfl⟩
      · exact hbefore hp'.isInfix
      · -- the word would reach over the seam, by an end of its own that it also begins with
        have hv : v <+: after := by simpa using hp
        have hborder : v <+: c :: before ++ v := by
          apply List.prefix_of_prefix_length_le hv hafter
          rw [List.length_append]
          exact Nat.le_add_left _ _
        rcases hword v (List.suffix_append _ _) hborder with rfl | hv'
        · exact hbefore (by simp)
        · have hlength := congrArg List.length hv'
          rw [List.length_append, List.length_cons] at hlength
          omega
    have hrest : ¬ word <:+: before := fun h => hbefore (List.infix_cons h)
    simp only [List.cons_append, cut?]
    rw [if_neg (by rwa [List.isPrefixOf_iff_prefix]), ih hrest]
    rfl

@[simp]
theorem cut?_eq_none_iff {word text : List α} : cut? word text = none ↔ ¬ word <:+: text := by
  rw [← occursIn_iff, occursIn, Option.not_isSome_iff_eq_none]

theorem length_le_of_cut?_eq_some {word text before after : List α}
    (h : cut? word text = some (before, after)) {other rest : List α} (heq : text = other ++ rest)
    (hrest : word <+: rest) : before.length ≤ other.length := by
  induction text generalizing before other with
  | nil =>
    simp only [cut?] at h
    split at h
    · cases h
      exact Nat.zero_le _
    · cases h
  | cons c text ih =>
    simp only [cut?] at h
    split at h
    · cases h
      exact Nat.zero_le _
    · next hp =>
      obtain ⟨⟨before', after'⟩, hcut, heq'⟩ := Option.map_eq_some_iff.1 h
      cases heq'
      cases other with
      | nil =>
        rw [List.nil_append] at heq
        rw [heq, List.isPrefixOf_iff_prefix] at hp
        exact absurd hrest hp
      | cons d other =>
        cases heq
        exact Nat.succ_le_succ (ih hcut rfl)

end AngularClient.Text
