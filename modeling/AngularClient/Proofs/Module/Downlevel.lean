import AngularClient.Module.Generation
import Mathlib.Data.List.Infix

namespace AngularClient

@[simp] theorem Text.trimEnd_concat {c : Char} (s : List Char) (hc : Text.isBlank c = false) :
    Text.trimEnd (s ++ [c]) = s ++ [c] := by
  simp [Text.trimEnd, hc]

theorem Text.line_infix_unlines {line : List Char} {ls : List (List Char)} (h : line ∈ ls) :
    line ++ ['\n'] <:+: Text.unlines ls := by
  obtain ⟨before, after, rfl⟩ := List.append_of_mem h
  refine ⟨Text.unlines before, Text.unlines after, ?_⟩
  simp [Text.unlines]

namespace Module

variable {margin line rest script : List Char} {ls : List (List Char)}

theorem mem_squeezeAfter (h : line ∈ ls) (hne : line ≠ []) :
    ∀ gap, line ∈ squeezeAfter gap ls := by
  induction ls with
  | nil => cases h
  | cons first ls ih =>
    intro gap
    cases first with
    | nil =>
      rw [squeezeAfter]
      rcases List.mem_cons.1 h with rfl | h
      · exact absurd rfl hne
      · exact ih h true
    | cons c first =>
      rw [squeezeAfter]
      · rw [List.mem_append]
        rcases List.mem_cons.1 h with rfl | h
        · left
          cases gap <;> simp
        · exact .inr (ih h false)
      · exact List.cons_ne_nil c first

theorem mem_squeeze (h : line ∈ ls) (hne : line ≠ []) : line ∈ squeeze ls := by
  apply mem_squeezeAfter _ hne
  induction ls with
  | nil => cases h
  | cons first ls ih =>
    cases first with
    | nil =>
      rcases List.mem_cons.1 h with rfl | h
      · exact absurd rfl hne
      · exact ih h
    | cons c first => exact h

theorem mem_splitOn (hline : '\n' ∉ line) (h : '\n' :: line ++ ['\n'] <:+: script) :
    line ∈ script.splitOn '\n' := by
  obtain ⟨before, after, rfl⟩ := h
  have hs : before ++ ('\n' :: line ++ ['\n']) ++ after =
      before ++ '\n' :: (line ++ '\n' :: after) := by simp
  rw [hs, List.splitOn_append_cons_self, List.splitOn_append_cons_self_of_not_mem hline]
  simp

theorem line_infix_downlevel (hline : '\n' ∉ line) (h : '\n' :: line ++ ['\n'] <:+: script)
    (hne : Text.trimEnd (lowerDeclaration line) ≠ []) :
    Text.trimEnd (lowerDeclaration line) ++ ['\n'] <:+: downlevel script := by
  have hmem := mem_squeeze (List.mem_map_of_mem (f := fun line =>
    Text.trimEnd (lowerDeclaration line)) (mem_splitOn hline h)) hne
  unfold downlevel
  split
  · next hnil => rw [hnil] at hmem; cases hmem
  · exact Text.line_infix_unlines hmem

theorem dropWhile_isIndent (hm : ∀ c ∈ margin, isIndent c = true)
    (hr : ∀ c, rest.head? = some c → isIndent c = false) :
    (margin ++ rest).dropWhile isIndent = rest := by
  rw [List.dropWhile_append_of_pos hm]
  cases rest with
  | nil => rfl
  | cons c rest => exact List.dropWhile_cons_of_neg (by simp [hr c rfl])

theorem takeWhile_isIndent (hm : ∀ c ∈ margin, isIndent c = true)
    (hr : ∀ c, rest.head? = some c → isIndent c = false) :
    (margin ++ rest).takeWhile isIndent = margin := by
  rw [List.takeWhile_append_of_pos hm]
  cases rest with
  | nil => simp
  | cons c rest => simp [hr c rfl]

theorem lowerDeclaration_let (hm : ∀ c ∈ margin, isIndent c = true)
    (hr : ∀ c, rest.head? = some c → isIndent c = false) :
    lowerDeclaration (margin ++ 'l' :: 'e' :: 't' :: ' ' :: rest) =
      margin ++ 'v' :: 'a' :: 'r' :: ' ' :: rest := by
  have hl : ∀ c, ('l' :: 'e' :: 't' :: ' ' :: rest).head? = some c → isIndent c = false := by
    intro c hc
    cases hc
    rfl
  have hconst : afterKeyword? "const".toList ('l' :: 'e' :: 't' :: ' ' :: rest) = none := by
    simp [afterKeyword?]
  have hlet : afterKeyword? "let".toList ('l' :: 'e' :: 't' :: ' ' :: rest) = some rest := by
    have hd : ([' '] ++ rest).dropWhile isIndent = rest :=
      dropWhile_isIndent (by simp [isIndent]) hr
    simpa [afterKeyword?, isIndent] using hd
  simp only [lowerDeclaration, dropWhile_isIndent hm hl, takeWhile_isIndent hm hl, hconst, hlet]
  simp

theorem lowerDeclaration_of_ne {c : Char} (hm : ∀ c ∈ margin, isIndent c = true)
    (hi : isIndent c = false) (hconst : c ≠ 'c') (hlet : c ≠ 'l') :
    lowerDeclaration (margin ++ c :: rest) = margin ++ c :: rest := by
  have hl : ∀ d, (c :: rest).head? = some d → isIndent d = false := by
    intro d hd
    cases hd
    exact hi
  simp [lowerDeclaration, dropWhile_isIndent hm hl, afterKeyword?, Ne.symm hconst, Ne.symm hlet]

end Module

end AngularClient
