import AngularClient.Proofs.Module.Downlevel
import AngularClient.Proofs.Text.Comment
import Mathlib.Data.List.TakeWhile

/-! A script lowered part by part.  Lines are lowered one by one, and a run of empty lines does not
reach over a line that is not empty, so a script may be cut behind such a line and its parts lowered
apart.  A word that stands in a line stays there, but for blanks at the end and a keyword at the
beginning. -/

namespace AngularClient.Module

def lowerLine (line : List Char) : List Char := Text.trimEnd (lowerDeclaration line)

def lowerLines (s : List Char) : List (List Char) := (s.splitOn '\n').map lowerLine

def lowered (s : List Char) : List Char := Text.unlines (squeezeAfter false (lowerLines s))

variable {c : Char} {line word s t script : List Char} {ls ms : List (List Char)} {gap : Bool}

section Squeeze

@[simp] theorem squeezeAfter_nil_cons (gap : Bool) (ls : List (List Char)) :
    squeezeAfter gap ([] :: ls) = squeezeAfter true ls := by rw [squeezeAfter]

@[simp] theorem squeezeAfter_cons_of_ne (h : line ≠ []) (gap : Bool) (ls : List (List Char)) :
    squeezeAfter gap (line :: ls) =
      (if gap then [[], line] else [line]) ++ squeezeAfter false ls := by
  rw [squeezeAfter]
  exact h

theorem squeezeAfter_append (h : line ≠ []) (ls ms : List (List Char)) (gap : Bool) :
    squeezeAfter gap (ls ++ [line] ++ ms) =
      squeezeAfter gap (ls ++ [line]) ++ squeezeAfter false ms := by
  -- Whatever gap comes before it, the line that is not empty leaves none behind it.
  induction ls generalizing gap with
  | nil =>
    rw [List.nil_append, List.singleton_append, squeezeAfter_cons_of_ne h,
      squeezeAfter_cons_of_ne h, squeezeAfter, List.append_nil]
  | cons first ls ih =>
    by_cases hfirst : first = []
    · subst hfirst
      simp only [List.cons_append, squeezeAfter_nil_cons]
      exact ih true
    · rw [List.cons_append, List.cons_append, squeezeAfter_cons_of_ne hfirst, ih false,
        squeezeAfter_cons_of_ne hfirst, List.append_assoc]

@[simp] theorem squeezeAfter_concat_nil (ls : List (List Char)) (gap : Bool) :
    squeezeAfter gap (ls ++ [[]]) = squeezeAfter gap ls := by
  induction ls generalizing gap with
  | nil => simp [squeezeAfter]
  | cons first ls ih =>
    by_cases hfirst : first = []
    · subst hfirst
      simp only [List.cons_append, squeezeAfter_nil_cons, ih]
    · simp only [List.cons_append, squeezeAfter_cons_of_ne hfirst, ih]

end Squeeze

section Lines

theorem trimEnd_ne_nil (hc : c ∈ s) (h : Text.isBlank c = false) : Text.trimEnd s ≠ [] := by
  intro hnil
  rw [Text.trimEnd, List.reverse_eq_nil_iff, List.dropWhile_eq_nil_iff] at hnil
  rw [hnil c (List.mem_reverse.2 hc)] at h
  cases h

theorem lowerLine_ne_nil (hc : c ∈ line) (h : Text.isBlank c = false) : lowerLine line ≠ [] := by
  unfold lowerLine lowerDeclaration
  simp only
  split
  · next declared hdeclared =>
    refine trimEnd_ne_nil (c := 'v') ?_ rfl
    rw [List.mem_append, List.mem_append]
    exact .inl (.inr (by decide))
  · exact trimEnd_ne_nil hc h

theorem lowerLines_append (s t : List Char) :
    lowerLines (s ++ '\n' :: t) = lowerLines s ++ lowerLines t := by
  rw [lowerLines, List.splitOn_append_cons_self, List.map_append]
  rfl

@[simp] theorem lowerLines_newline (s : List Char) : lowerLines ('\n' :: s) = [] :: lowerLines s :=
  lowerLines_append [] s

theorem exists_lowerLines_cons (h : Text.isBlank c = false) (s : List Char) :
    ∃ line ls, lowerLines (c :: s) = line :: ls ∧ line ≠ [] := by
  have hc : c ≠ '\n' := by
    rintro rfl
    cases h
  cases hs : s.splitOn '\n' with
  | nil => exact absurd hs (List.splitOn_ne_nil _ _)
  | cons line ls =>
    refine ⟨lowerLine (c :: line), ls.map lowerLine, ?_, lowerLine_ne_nil List.mem_cons_self h⟩
    rw [lowerLines, List.splitOn_cons_eq_if_modifyHead, if_neg (by simpa using hc), hs]
    rfl

def Closed (s : List Char) : Prop := ∃ ls line, lowerLines s = ls ++ [line] ∧ line ≠ []

theorem exists_splitOn_concat (hc : c ≠ '\n') (s : List Char) :
    ∃ ls line, (s ++ [c]).splitOn '\n' = ls ++ [line] ∧ c ∈ line := by
  induction s with
  | nil =>
    refine ⟨[], [c], ?_, List.mem_singleton_self c⟩
    rw [List.nil_append, List.splitOn_cons_eq_if_modifyHead, if_neg (by simpa using hc)]
    rfl
  | cons d s ih =>
    obtain ⟨ls, line, hs, hmem⟩ := ih
    rw [List.cons_append, List.splitOn_cons_eq_if_modifyHead, hs]
    by_cases hd : (d == '\n') = true
    · exact ⟨[] :: ls, line, by rw [if_pos hd, List.cons_append], hmem⟩
    · rw [if_neg hd]
      cases ls with
      | nil => exact ⟨[], d :: line, rfl, List.mem_cons_of_mem d hmem⟩
      | cons first ls => exact ⟨(d :: first) :: ls, line, rfl, hmem⟩

theorem closed_concat (h : Text.isBlank c = false) (s : List Char) : Closed (s ++ [c]) := by
  have hc : c ≠ '\n' := by
    rintro rfl
    cases h
  obtain ⟨ls, line, hs, hmem⟩ := exists_splitOn_concat hc s
  refine ⟨ls.map lowerLine, lowerLine line, ?_, lowerLine_ne_nil hmem h⟩
  rw [lowerLines, hs, List.map_append, List.map_singleton]

theorem Closed.newline (h : Closed s) : Closed ('\n' :: s) := by
  obtain ⟨ls, line, hs, hne⟩ := h
  exact ⟨[] :: ls, line, by rw [lowerLines_newline, hs, List.cons_append], hne⟩

end Lines

section Parts

@[simp] theorem unlines_append (ls ms : List (List Char)) :
    Text.unlines (ls ++ ms) = Text.unlines ls ++ Text.unlines ms := List.flatMap_append

theorem lowered_append (h : Closed s) (t : List Char) :
    lowered (s ++ '\n' :: t) = lowered s ++ lowered t := by
  obtain ⟨ls, line, hs, hne⟩ := h
  rw [lowered, lowerLines_append, hs, squeezeAfter_append hne, unlines_append, ← hs]
  rfl

@[simp] theorem lowered_newline_newline (s : List Char) :
    lowered ('\n' :: '\n' :: s) = lowered ('\n' :: s) := by
  simp [lowered]

@[simp] theorem lowered_concat_newline (s : List Char) : lowered (s ++ ['\n']) = lowered s := by
  have hnil : lowerLines [] = [[]] := rfl
  rw [lowered, lowerLines_append, hnil, squeezeAfter_concat_nil]
  rfl

theorem downlevel_eq_unlines (h : squeeze (lowerLines s) ≠ []) :
    downlevel s = Text.unlines (squeeze (lowerLines s)) := by
  unfold downlevel
  split
  · next hnil => exact absurd hnil h
  · rfl

theorem downlevel_eq_lowered (h : Text.isBlank c = false) (s : List Char) :
    downlevel (c :: s) = lowered (c :: s) := by
  obtain ⟨line, ls, hs, hne⟩ := exists_lowerLines_cons h s
  have hsqueeze : squeeze (lowerLines (c :: s)) = squeezeAfter false (lowerLines (c :: s)) := by
    have hempty : line.isEmpty = false := List.isEmpty_eq_false_iff.2 hne
    rw [squeeze, hs, List.dropWhile_cons_of_neg (by simp [hempty])]
  rw [downlevel_eq_unlines, hsqueeze, lowered]
  rw [hsqueeze, hs, squeezeAfter_cons_of_ne hne]
  simp

def IsBlock (s : List Char) : Prop := ∃ body, s = '\n' :: '\n' :: (body ++ ['\n']) ∧ Closed body

theorem IsBlock.lowered_append (h : IsBlock s) (t : List Char) :
    lowered (s ++ t) = lowered s ++ lowered t := by
  obtain ⟨body, rfl, hbody⟩ := h
  have hopen := lowered_concat_newline ('\n' :: '\n' :: body)
  have hseam := Module.lowered_append hbody.newline.newline t
  simp only [List.cons_append, List.append_assoc, List.nil_append] at hopen hseam ⊢
  rw [hopen, hseam]

theorem lowered_flatten {blocks : List (List Char)} (h : ∀ s ∈ blocks, IsBlock s) (t : List Char) :
    lowered (blocks.flatten ++ t) = (blocks.map lowered).flatten ++ lowered t := by
  induction blocks with
  | nil => rfl
  | cons s blocks ih =>
    rw [List.forall_mem_cons] at h
    rw [List.flatten_cons, List.append_assoc, h.1.lowered_append, ih h.2, List.map_cons,
      List.flatten_cons, List.append_assoc]

/-- Behind a part that does not end its last line the first block lacks one of its empty lines, and
the end has one line feed less in front if it comes at once. -/
theorem lowered_header_append {header : List Char} {blocks : List (List Char)}
    (hheader : Closed header) (h : ∀ s ∈ blocks, IsBlock s) (rest : List Char) :
    lowered (header ++ (blocks.flatten ++ '\n' :: rest)) =
      lowered header ++ ((blocks.map lowered).flatten ++
        lowered (if blocks.isEmpty then rest else '\n' :: rest)) := by
  cases blocks with
  | nil => exact lowered_append hheader rest
  | cons s blocks =>
    obtain ⟨body, rfl, hbody⟩ := (List.forall_mem_cons.1 h).1
    have hfirst : lowered ('\n' :: (body ++ '\n' :: (blocks.flatten ++ '\n' :: rest))) =
        lowered (('\n' :: '\n' :: (body ++ ['\n'])) ++ (blocks.flatten ++ '\n' :: rest)) := by
      rw [← lowered_newline_newline]
      simp
    have hseam := lowered_append hheader
      ('\n' :: (body ++ '\n' :: (blocks.flatten ++ '\n' :: rest)))
    rw [List.isEmpty_cons, if_neg Bool.false_ne_true, ← lowered_flatten h, List.flatten_cons,
      List.append_assoc, ← hfirst, ← hseam]
    simp

end Parts

section Words

/-- A word that lowering leaves alone wherever it stands: it begins like no keyword, and it begins and
ends without blanks. -/
structure Stays (word : List Char) : Prop where
  unbroken : '\n' ∉ word
  begins : ∃ c rest, word = c :: rest ∧ isIndent c = false ∧ c ∉ "const".toList ∧
    c ∉ "let".toList
  ends : ∃ front c, word = front ++ [c] ∧ Text.isBlank c = false

@[simp] theorem cons_infix_append_iff (front : List Char) (h : c ∉ front) :
    c :: word <:+: front ++ s ↔ c :: word <:+: s := by
  induction front with
  | nil => rfl
  | cons d front ih =>
    rw [List.mem_cons, not_or] at h
    rw [List.cons_append, List.infix_cons_iff, List.cons_prefix_cons, ih h.2]
    simp [h.1]

theorem exists_afterKeyword {keyword declared : List Char}
    (h : afterKeyword? keyword s = some declared) :
    ∃ blanks, s = keyword ++ blanks ++ declared ∧ ∀ d ∈ blanks, isIndent d = true := by
  unfold afterKeyword? at h
  simp only [Option.ite_none_right_eq_some, Bool.and_eq_true, Option.some.injEq] at h
  obtain ⟨⟨hkeyword, -⟩, rfl⟩ := h
  obtain ⟨rest, rfl⟩ := List.isPrefixOf_iff_prefix.1 hkeyword
  refine ⟨rest.takeWhile isIndent, ?_, fun d hd => List.mem_takeWhile_imp hd⟩
  rw [List.drop_left, List.append_assoc, List.takeWhile_append_dropWhile]

theorem infix_lowerDeclaration (h : Stays word) (hword : word <:+: line) :
    word <:+: lowerDeclaration line := by
  obtain ⟨c, rest, rfl, hindent, hconst, hlet⟩ := h.begins
  unfold lowerDeclaration
  simp only
  split
  · next declared hdeclared =>
    have hmargin : c ∉ line.takeWhile isIndent := by
      intro hc
      rw [List.mem_takeWhile_imp hc] at hindent
      cases hindent
    -- The word begins neither in the margin, nor in the keyword, nor in the blanks behind that.
    have hkeyword : ∃ keyword, c ∉ keyword ∧
        afterKeyword? keyword (line.dropWhile isIndent) = some declared := by
      rcases Option.or_eq_some_iff.1 hdeclared with hafter | ⟨-, hafter⟩
      · exact ⟨_, hconst, hafter⟩
      · exact ⟨_, hlet, hafter⟩
    obtain ⟨keyword, hc, hafter⟩ := hkeyword
    obtain ⟨blanks, hrest, hblanks⟩ := exists_afterKeyword hafter
    have hblank : c ∉ blanks := by
      intro hc
      rw [hblanks c hc] at hindent
      cases hindent
    rw [← line.takeWhile_append_dropWhile (p := isIndent), hrest,
      cons_infix_append_iff _ hmargin, List.append_assoc, cons_infix_append_iff _ hc,
      cons_infix_append_iff _ hblank] at hword
    exact hword.trans (List.suffix_append _ _).isInfix
  · exact hword

theorem infix_trimEnd (h : Stays word) (hword : word <:+: line) : word <:+: Text.trimEnd line := by
  obtain ⟨front, c, rfl, hc⟩ := h.ends
  obtain ⟨before, after, rfl⟩ := hword
  have hreverse : (before ++ (front ++ [c]) ++ after).reverse =
      after.reverse ++ c :: (before ++ front).reverse := by simp
  rw [Text.trimEnd, hreverse, List.dropWhile_append]
  split
  · rw [List.dropWhile_cons_of_neg (by simp [hc])]
    refine ⟨before, [], ?_⟩
    simp
  · refine ⟨before, (after.reverse.dropWhile Text.isBlank).reverse, ?_⟩
    simp

theorem infix_downlevel (h : Stays word) (hword : word <:+: script) : word <:+: downlevel script := by
  obtain ⟨c, rest, hcons, -, -⟩ := h.begins
  have hne : word ≠ [] := hcons ▸ List.cons_ne_nil c rest
  have hbreak : ∀ d ∈ word, (d == '\n') = false := by
    intro d hd
    rw [beq_eq_false_iff_ne]
    rintro rfl
    exact h.unbroken hd
  obtain ⟨line, hline, hinfix⟩ := (Text.infix_splitOnP_iff hbreak hne script).1 hword
  have hlowered := infix_trimEnd h (infix_lowerDeclaration h hinfix)
  have hempty : Text.trimEnd (lowerDeclaration line) ≠ [] := by
    intro hnil
    rw [hnil, List.infix_nil] at hlowered
    exact hne hlowered
  have hmem : Text.trimEnd (lowerDeclaration line) ∈ squeeze (lowerLines script) :=
    mem_squeeze (List.mem_map_of_mem (f := lowerLine) hline) hempty
  rw [downlevel_eq_unlines (List.ne_nil_of_mem hmem)]
  exact hlowered.trans ((List.prefix_append _ _).isInfix.trans (Text.line_infix_unlines hmem))

end Words

end AngularClient.Module
