import AngularClient.Proofs.Files.Path
import AngularClient.Proofs.Module.Squeeze

namespace AngularClient

def Text.Trims (s t : List Char) : Prop :=
  ∃ blanks, s = t ++ blanks ∧ (∀ c ∈ blanks, Text.isBlank c = true) ∧
    ∀ c, t.getLast? = some c → Text.isBlank c = false

def Text.isBlankLine (line : List Char) : Bool := line.all Text.isBlank

namespace Module

def IsKeyword (word : List Char) : Prop := word = "const".toList ∨ word = "let".toList

def OpensDeclaration (line : List Char) : Prop :=
  ∃ margin word c rest, line = margin ++ word ++ c :: rest ∧ IsKeyword word ∧
    (∀ d ∈ margin, isIndent d = true) ∧ isIndent c = true

def Declares (line margin declared : List Char) : Prop :=
  ∃ word blanks, line = margin ++ word ++ blanks ++ declared ∧ IsKeyword word ∧ blanks ≠ [] ∧
    (∀ c ∈ margin, isIndent c = true) ∧ (∀ c ∈ blanks, isIndent c = true) ∧
      ∀ c, declared.head? = some c → isIndent c = false

inductive Lowers : List Char → List Char → Prop
  | declaration {line margin declared t : List Char} : Declares line margin declared →
      Text.Trims (margin ++ "var ".toList ++ declared) t → Lowers line t
  | other {line t : List Char} : ¬ OpensDeclaration line → Text.Trims line t → Lowers line t

variable {c : Char} {margin word rest declared line s t script : List Char}
  {ls : List (List Char)}

section Trim

theorem trims_trimEnd (s : List Char) : Text.Trims s (Text.trimEnd s) := by
  refine ⟨(s.reverse.takeWhile Text.isBlank).reverse, ?_, ?_, ?_⟩
  · rw [Text.trimEnd, ← List.reverse_append, List.takeWhile_append_dropWhile, List.reverse_reverse]
  · intro c hc
    exact List.mem_takeWhile_imp (List.mem_reverse.1 hc)
  · intro c hc
    rw [Text.trimEnd, List.getLast?_reverse] at hc
    by_contra hblank
    have hhead := List.head?_dropWhile_not Text.isBlank s.reverse
    rw [hc] at hhead
    simp [hhead] at hblank

@[simp] theorem trimEnd_of_getLast? (h : ∀ c, s.getLast? = some c → Text.isBlank c = false) :
    Text.trimEnd s = s := by
  rcases s.eq_nil_or_concat with rfl | ⟨front, c, rfl⟩
  · rfl
  · rw [List.concat_eq_append] at h ⊢
    exact Text.trimEnd_concat front (h c List.getLast?_concat)

@[simp]
theorem trimEnd_trimEnd (s : List Char) : Text.trimEnd (Text.trimEnd s) = Text.trimEnd s := by
  obtain ⟨-, -, -, hlast⟩ := trims_trimEnd s
  exact trimEnd_of_getLast? hlast

theorem trimEnd_isPrefix_self (s : List Char) : Text.trimEnd s <+: s := by
  obtain ⟨blanks, hs, -⟩ := trims_trimEnd s
  exact ⟨blanks, hs.symm⟩

end Trim

section Declarations

theorem IsKeyword.exists_cons (h : IsKeyword word) :
    ∃ c rest, word = c :: rest ∧ isIndent c = false ∧ Text.isBlank c = false ∧ c ≠ 'v' := by
  rcases h with rfl | rfl
  · exact ⟨'c', _, rfl, rfl, rfl, by decide⟩
  · exact ⟨'l', _, rfl, rfl, rfl, by decide⟩

theorem afterKeyword?_eq_some_iff : afterKeyword? word s = some declared ↔
    ∃ blanks, s = word ++ blanks ++ declared ∧ blanks ≠ [] ∧ (∀ c ∈ blanks, isIndent c = true) ∧
      ∀ c, declared.head? = some c → isIndent c = false := by
  constructor
  · intro h
    unfold afterKeyword? at h
    simp only [Option.ite_none_right_eq_some, Bool.and_eq_true, Option.some.injEq] at h
    obtain ⟨⟨hword, hhead⟩, rfl⟩ := h
    obtain ⟨rest, rfl⟩ := List.isPrefixOf_iff_prefix.1 hword
    rw [List.drop_left] at hhead ⊢
    refine ⟨rest.takeWhile isIndent, ?_, ?_, fun c hc => List.mem_takeWhile_imp hc, ?_⟩
    · rw [List.append_assoc, List.takeWhile_append_dropWhile]
    · cases rest with
      | nil => cases hhead
      | cons c rest =>
        rw [List.takeWhile_cons_of_pos (by simpa using hhead)]
        exact List.cons_ne_nil _ _
    · intro c hc
      have hnot := List.head?_dropWhile_not isIndent rest
      rw [hc] at hnot
      simpa using hnot
  · rintro ⟨blanks, rfl, hne, hblanks, hhead⟩
    obtain ⟨c, rest, rfl⟩ := List.exists_cons_of_ne_nil hne
    have hc := hblanks c List.mem_cons_self
    have hword : word.isPrefixOf (word ++ (c :: rest) ++ declared) = true :=
      List.isPrefixOf_iff_prefix.2 ((List.prefix_append _ _).trans (List.prefix_append _ _))
    have hdrop : (word ++ (c :: rest) ++ declared).drop word.length = c :: rest ++ declared := by
      rw [List.append_assoc, List.drop_left]
    rw [afterKeyword?, hdrop, hword, dropWhile_isIndent hblanks hhead]
    simp [hc]

theorem lowerDeclaration_of_declares (h : Declares line margin declared) :
    lowerDeclaration line = margin ++ "var ".toList ++ declared := by
  obtain ⟨word, blanks, rfl, hword, hne, hmargin, hblanks, hdeclared⟩ := h
  obtain ⟨c, rest, hcons, hc, -⟩ := hword.exists_cons
  have hhead : ∀ d, (word ++ blanks ++ declared).head? = some d → isIndent d = false := by
    intro d hd
    rw [hcons, List.cons_append, List.cons_append, List.head?_cons, Option.some.injEq] at hd
    rwa [← hd]
  have hafter : afterKeyword? word (word ++ blanks ++ declared) = some declared :=
    afterKeyword?_eq_some_iff.2 ⟨blanks, rfl, hne, hblanks, hdeclared⟩
  have hor : (afterKeyword? "const".toList (word ++ blanks ++ declared)).or
      (afterKeyword? "let".toList (word ++ blanks ++ declared)) = some declared := by
    rcases hword with rfl | rfl
    · rw [hafter, Option.some_or]
    · have hconst : afterKeyword? "const".toList ("let".toList ++ blanks ++ declared) = none := by
        simp [afterKeyword?]
      rw [hafter, hconst, Option.none_or]
  rw [List.append_assoc margin, List.append_assoc margin, lowerDeclaration]
  simp only [dropWhile_isIndent hmargin hhead, takeWhile_isIndent hmargin hhead, hor]

theorem OpensDeclaration.exists_declares (h : OpensDeclaration line) :
    ∃ margin declared, Declares line margin declared := by
  obtain ⟨margin, word, c, rest, rfl, hword, hmargin, hc⟩ := h
  refine ⟨margin, rest.dropWhile isIndent, word, c :: rest.takeWhile isIndent, ?_, hword,
    List.cons_ne_nil _ _, hmargin, ?_, ?_⟩
  · simp
  · intro d hd
    rcases List.mem_cons.1 hd with rfl | hd
    · exact hc
    · exact List.mem_takeWhile_imp hd
  · intro d hd
    have hnot := List.head?_dropWhile_not isIndent rest
    rw [hd] at hnot
    simpa using hnot

@[simp] theorem lowerDeclaration_of_not_opens (h : ¬ OpensDeclaration line) :
    lowerDeclaration line = line := by
  unfold lowerDeclaration
  simp only
  split
  · next declared hdeclared =>
    exfalso
    apply h
    obtain ⟨word, hword, hafter⟩ : ∃ word, IsKeyword word ∧
        afterKeyword? word (line.dropWhile isIndent) = some declared := by
      rcases Option.or_eq_some_iff.1 hdeclared with hafter | ⟨-, hafter⟩
      · exact ⟨_, .inl rfl, hafter⟩
      · exact ⟨_, .inr rfl, hafter⟩
    obtain ⟨blanks, hline, hne, hblanks, -⟩ := afterKeyword?_eq_some_iff.1 hafter
    obtain ⟨c, rest, rfl⟩ := List.exists_cons_of_ne_nil hne
    refine ⟨line.takeWhile isIndent, word, c, rest ++ declared, ?_, hword,
      fun d hd => List.mem_takeWhile_imp hd, hblanks c List.mem_cons_self⟩
    calc line = line.takeWhile isIndent ++ line.dropWhile isIndent :=
          List.takeWhile_append_dropWhile.symm
      _ = line.takeWhile isIndent ++ word ++ c :: (rest ++ declared) := by
          rw [hline]
          simp
  · rfl

theorem lowers_lowerLine (line : List Char) : Lowers line (lowerLine line) := by
  by_cases h : OpensDeclaration line
  · obtain ⟨margin, declared, hdeclares⟩ := h.exists_declares
    have htrims := trims_trimEnd (lowerDeclaration line)
    rw [lowerDeclaration_of_declares hdeclares] at htrims
    rw [lowerLine, lowerDeclaration_of_declares hdeclares]
    exact .declaration hdeclares htrims
  · rw [lowerLine, lowerDeclaration_of_not_opens h]
    exact .other h (trims_trimEnd line)

theorem OpensDeclaration.of_prefix (h : OpensDeclaration s) (hbegins : s <+: t) :
    OpensDeclaration t := by
  obtain ⟨margin, word, c, rest, rfl, hword, hmargin, hc⟩ := h
  obtain ⟨more, rfl⟩ := hbegins
  exact ⟨margin, word, c, rest ++ more, by simp, hword, hmargin, hc⟩

theorem not_opens_var (hmargin : ∀ d ∈ margin, isIndent d = true) :
    ¬ OpensDeclaration (margin ++ 'v' :: rest) := by
  rintro ⟨margin', word, c, rest', heq, hword, hmargin', -⟩
  obtain ⟨d, word', rfl, hd, -, hne⟩ := hword.exists_cons
  have hdrop := congrArg (List.dropWhile isIndent) heq
  rw [dropWhile_isIndent hmargin, List.append_assoc, dropWhile_isIndent hmargin'] at hdrop
  · exact hne (List.cons.inj hdrop).1.symm
  · intro e he
    cases he
    exact hd
  · intro e he
    cases he
    rfl

theorem not_opens_lowerLine (line : List Char) : ¬ OpensDeclaration (lowerLine line) := by
  intro h
  have hopens := h.of_prefix (trimEnd_isPrefix_self _)
  by_cases hline : OpensDeclaration line
  · obtain ⟨margin, declared, hdeclares⟩ := hline.exists_declares
    rw [lowerDeclaration_of_declares hdeclares, List.append_assoc] at hopens
    obtain ⟨_, _, -, -, -, hmargin, -, -⟩ := hdeclares
    exact not_opens_var hmargin hopens
  · rw [lowerDeclaration_of_not_opens hline] at hopens
    exact hline hopens

@[simp]
theorem lowerLine_lowerLine (line : List Char) : lowerLine (lowerLine line) = lowerLine line := by
  rw [lowerLine, lowerDeclaration_of_not_opens (not_opens_lowerLine line), lowerLine,
    trimEnd_trimEnd]

end Declarations

section Blank

@[simp] theorem lowerLine_eq_nil_iff : lowerLine line = [] ↔ Text.isBlankLine line = true := by
  rw [Text.isBlankLine, List.all_eq_true]
  constructor
  · intro h c hc
    by_contra hblank
    exact lowerLine_ne_nil hc (Bool.not_eq_true _ ▸ hblank) h
  · intro h
    have hnot : ¬ OpensDeclaration line := by
      rintro ⟨margin, word, c, rest, rfl, hword, -⟩
      obtain ⟨d, word', rfl, -, hd, -⟩ := hword.exists_cons
      rw [h d (by simp)] at hd
      cases hd
    rw [lowerLine, lowerDeclaration_of_not_opens hnot, Text.trimEnd, List.reverse_eq_nil_iff,
      List.dropWhile_eq_nil_iff]
    exact fun c hc => h c (List.mem_reverse.1 hc)

@[simp] theorem isBlankLine_lowerLine (line : List Char) :
    Text.isBlankLine (lowerLine line) = Text.isBlankLine line := by
  rw [Bool.eq_iff_iff, ← lowerLine_eq_nil_iff, ← lowerLine_eq_nil_iff, lowerLine_lowerLine]

end Blank

section Lines

@[simp] theorem splitOn_unlines (h : ∀ line ∈ ls, '\n' ∉ line) :
    (Text.unlines ls).splitOn '\n' = ls ++ [[]] := by
  induction ls with
  | nil => rfl
  | cons line ls ih =>
    rw [List.forall_mem_cons] at h
    have hunlines : Text.unlines (line :: ls) = line ++ '\n' :: Text.unlines ls := by
      simp [Text.unlines]
    rw [hunlines, List.splitOn_append_cons_self_of_not_mem h.1, ih h.2, List.cons_append]

@[simp] theorem lowerLine_of_mem_squeeze (h : line ∈ squeeze (lowerLines script)) :
    lowerLine line = line := by
  rcases eq_nil_or_mem_of_mem_squeezeAfter h with rfl | h
  · rfl
  · obtain ⟨source, -, rfl⟩ := List.mem_map.1 (List.dropWhile_subset _ h)
    exact lowerLine_lowerLine source

theorem mem_of_mem_lowerLine (h : c ∈ lowerLine line) : c ∈ line ∨ c ∈ "var ".toList := by
  have hmem := (trimEnd_isPrefix_self _).subset h
  by_cases hopens : OpensDeclaration line
  · obtain ⟨margin, declared, hdeclares⟩ := hopens.exists_declares
    rw [lowerDeclaration_of_declares hdeclares, List.mem_append, List.mem_append] at hmem
    obtain ⟨word, blanks, rfl, -⟩ := hdeclares
    rcases hmem with (hmargin | hvar) | hdeclared
    · exact .inl (by simp [hmargin])
    · exact .inr hvar
    · exact .inl (by simp [hdeclared])
  · rw [lowerDeclaration_of_not_opens hopens] at hmem
    exact .inl hmem

theorem unbroken_of_mem_squeeze (h : line ∈ squeeze (lowerLines script)) : '\n' ∉ line := by
  rcases eq_nil_or_mem_of_mem_squeezeAfter h with rfl | h
  · exact List.not_mem_nil
  · obtain ⟨source, hsource, rfl⟩ := List.mem_map.1 (List.dropWhile_subset _ h)
    intro hmem
    rcases mem_of_mem_lowerLine hmem with hmem | hmem
    · exact Route.not_mem_of_mem_splitOn source hsource hmem
    · exact absurd hmem (by decide)

end Lines

section NormalForm

def written (ls : List (List Char)) : List (List Char) := ls.filter (! Text.isBlankLine ·)

structure NormalForm (script text : List Char) (out : List (List Char)) : Prop where
  lines : text = Text.unlines out
  unbroken : ∀ line ∈ out, '\n' ∉ line
  lowered : List.Forall₂ Lowers (written (script.splitOn '\n')) (written out)
  undeclared : ∀ line ∈ out, ¬ OpensDeclaration line
  first : written (script.splitOn '\n') ≠ [] →
    ∀ line, out.head? = some line → Text.isBlankLine line = false
  apart : out.IsChain fun x y => Text.isBlankLine x = false ∨ Text.isBlankLine y = false
  gap : ∀ before x blanks y after, script.splitOn '\n' = before ++ x :: (blanks ++ y :: after) →
    Text.isBlankLine x = false → Text.isBlankLine y = false →
    (∀ line ∈ blanks, Text.isBlankLine line = true) →
    ∃ before' x' y' after',
      out = before' ++ x' :: ((if blanks.isEmpty then [] else [[]]) ++ y' :: after') ∧
        List.Forall₂ Lowers (written before) (written before') ∧ Lowers x x' ∧ Lowers y y'
  blank : written (script.splitOn '\n') = [] → text = ['\n']
  ended : written (script.splitOn '\n') ≠ [] → ∃ front c, text = front ++ [c, '\n'] ∧ c ≠ '\n'

theorem isBlankLine_of_lowerLine (h : lowerLine line = line) :
    Text.isBlankLine line = line.isEmpty := by
  rw [Bool.eq_iff_iff, ← lowerLine_eq_nil_iff, h, List.isEmpty_iff]

theorem forall₂_lowers {out : List (List Char)} (hout : ∀ line ∈ out, lowerLine line = line)
    (h : out.filter (! ·.isEmpty) = (ls.map lowerLine).filter (! ·.isEmpty)) :
    List.Forall₂ Lowers (written ls) (written out) := by
  have hwritten : written out = (written ls).map lowerLine := by
    calc written out = out.filter (! ·.isEmpty) := by
          refine List.filter_congr fun line hline => ?_
          rw [isBlankLine_of_lowerLine (hout line hline)]
      _ = (ls.filter fun line => ! (lowerLine line).isEmpty).map lowerLine := by
          rw [h, List.filter_map]
          rfl
      _ = (written ls).map lowerLine := by
          congr 1
          refine List.filter_congr fun line _ => ?_
          rw [← isBlankLine_of_lowerLine (lowerLine_lowerLine line), isBlankLine_lowerLine]
  rw [hwritten, List.forall₂_map_right_iff, List.forall₂_same]
  exact fun line _ => lowers_lowerLine line

theorem squeeze_lowerLines_eq_nil_iff :
    squeeze (lowerLines script) = [] ↔ written (script.splitOn '\n') = [] := by
  rw [squeeze_eq_nil_iff, lowerLines, List.forall_mem_map, written, List.filter_eq_nil_iff]
  simp only [lowerLine_eq_nil_iff, Bool.not_eq_true', Bool.not_eq_false]

theorem exists_unlines_squeeze (h : squeeze (lowerLines script) ≠ []) :
    ∃ front c, Text.unlines (squeeze (lowerLines script)) = front ++ [c, '\n'] ∧ c ≠ '\n' := by
  obtain ⟨ls, last, hlast, hne⟩ := exists_squeeze_concat h
  have hunbroken : '\n' ∉ last := unbroken_of_mem_squeeze (by rw [hlast]; simp)
  obtain ⟨front, c, rfl⟩ := (last.eq_nil_or_concat).resolve_left hne
  refine ⟨Text.unlines ls ++ front, c, ?_, ?_⟩
  · rw [hlast, unlines_append]
    simp [Text.unlines]
  · rintro rfl
    simp at hunbroken

theorem squeeze_lowerLines_unlines (script : List Char) :
    squeeze (lowerLines (Text.unlines (squeeze (lowerLines script)))) =
      squeeze (lowerLines script) := by
  have hmap : (squeeze (lowerLines script)).map lowerLine = squeeze (lowerLines script) :=
    (List.map_congr_left fun line hline => lowerLine_of_mem_squeeze hline).trans (List.map_id' _)
  have hnil : lowerLine [] = [] := rfl
  rw [lowerLines, splitOn_unlines fun line hline => unbroken_of_mem_squeeze hline, List.map_append,
    hmap, List.map_singleton, hnil, squeeze_concat_nil, squeeze_squeeze]

theorem normalForm_of_blank (h : written (script.splitOn '\n') = []) :
    NormalForm script ['\n'] [[]] := by
  have hblank : ∀ line ∈ script.splitOn '\n', Text.isBlankLine line = true := by
    simpa [written, List.filter_eq_nil_iff] using h
  exact {
    lines := rfl
    unbroken := by simp
    lowered := by rw [h]; exact .nil
    undeclared := by
      rintro line hline ⟨margin, word, c, rest, rfl, -⟩
      simp at hline
    first := fun hne => absurd h hne
    apart := .singleton _
    gap := by
      intro before x blanks y after hlines hx
      rw [hblank x (by simp [hlines])] at hx
      cases hx
    blank := fun _ => rfl
    ended := fun hne => absurd h hne }

theorem normalForm_of_written (h : written (script.splitOn '\n') ≠ []) :
    NormalForm script (Text.unlines (squeeze (lowerLines script)))
      (squeeze (lowerLines script)) := by
  have hfixed : ∀ line ∈ squeeze (lowerLines script), lowerLine line = line :=
    fun line hline => lowerLine_of_mem_squeeze hline
  have hempty : ∀ line ∈ squeeze (lowerLines script),
      (Text.isBlankLine line = false ↔ line ≠ []) := by
    intro line hline
    rw [isBlankLine_of_lowerLine (hfixed line hline), List.isEmpty_eq_false_iff]
  exact {
    lines := rfl
    unbroken := fun line hline => unbroken_of_mem_squeeze hline
    lowered := forall₂_lowers hfixed (filter_squeeze _)
    undeclared := by
      intro line hline
      rw [← hfixed line hline]
      exact not_opens_lowerLine line
    first := by
      intro _ line hline
      exact (hempty line (List.mem_of_mem_head? hline)).2 (head?_squeeze_ne_nil hline)
    apart := (isChain_squeezeAfter false _).imp_of_mem_imp fun x y hx hy hxy =>
      hxy.imp (hempty x hx).2 (hempty y hy).2
    gap := by
      intro before x blanks y after hlines hx hy hblanks
      have hne : ∀ {line}, Text.isBlankLine line = false → lowerLine line ≠ [] := by
        intro line hline hnil
        rw [lowerLine_eq_nil_iff, hline] at hnil
        cases hnil
      have hnils : ∀ e ∈ blanks.map lowerLine, e = [] :=
        List.forall_mem_map.2 fun line hline => lowerLine_eq_nil_iff.2 (hblanks line hline)
      obtain ⟨front, hfront, hkept⟩ := exists_squeeze_append_nils (hne hx) (hne hy) hnils
        (before.map lowerLine) (after.map lowerLine)
      have hsqueeze : squeeze (lowerLines script) = front ++ lowerLine x ::
          ((if blanks.isEmpty then [] else [[]]) ++
            lowerLine y :: squeezeAfter false (after.map lowerLine)) := by
        rw [lowerLines, hlines, ← List.isEmpty_map (f := lowerLine), ← hfront]
        simp only [List.map_append, List.map_cons]
      refine ⟨front, _, _, _, hsqueeze, forall₂_lowers ?_ hkept, lowers_lowerLine x,
        lowers_lowerLine y⟩
      intro line hline
      exact hfixed line (hsqueeze ▸ List.mem_append_left _ hline)
    blank := fun hnil => absurd hnil h
    ended := fun _ => exists_unlines_squeeze (mt squeeze_lowerLines_eq_nil_iff.1 h) }

/-- A lowered script is in normal form, and lowering leaves it as it is. -/
theorem normalForm_downlevel (script : List Char) :
    (∃ out, NormalForm script (downlevel script) out) ∧
      downlevel (downlevel script) = downlevel script := by
  by_cases h : written (script.splitOn '\n') = []
  · have hnil := squeeze_lowerLines_eq_nil_iff.2 h
    have hdownlevel : downlevel script = ['\n'] := by
      rw [downlevel]
      exact hnil ▸ rfl
    rw [hdownlevel]
    exact ⟨⟨_, normalForm_of_blank h⟩, rfl⟩
  · have hne : squeeze (lowerLines script) ≠ [] := mt squeeze_lowerLines_eq_nil_iff.1 h
    have hagain := squeeze_lowerLines_unlines script
    rw [downlevel_eq_unlines hne, downlevel_eq_unlines (hagain.symm ▸ hne), hagain]
    exact ⟨⟨_, normalForm_of_written h⟩, rfl⟩

end NormalForm

end Module

end AngularClient
