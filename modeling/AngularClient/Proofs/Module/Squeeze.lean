import AngularClient.Proofs.Module.Lowering
import Mathlib.Data.List.Chain

namespace AngularClient.Module

variable {line : List Char} {ls : List (List Char)} {gap : Bool}

theorem eq_nil_or_mem_of_mem_squeezeAfter (h : line ∈ squeezeAfter gap ls) :
    line = [] ∨ line ∈ ls := by
  induction ls generalizing gap with
  | nil => rw [squeezeAfter] at h; cases h
  | cons first ls ih =>
    by_cases hfirst : first = []
    · subst hfirst
      rw [squeezeAfter_nil_cons] at h
      exact (ih h).imp_right (List.mem_cons_of_mem _)
    · rw [squeezeAfter_cons_of_ne hfirst, List.mem_append] at h
      rcases h with h | h
      · have hline : line = [] ∨ line = first := by
          cases gap with
          | true => simpa using h
          | false => exact .inr (by simpa using h)
        exact hline.imp_right fun hfirst => List.mem_cons.2 (.inl hfirst)
      · exact (ih h).imp_right (List.mem_cons_of_mem _)

@[simp] theorem filter_squeezeAfter (gap : Bool) (ls : List (List Char)) :
    (squeezeAfter gap ls).filter (! ·.isEmpty) = ls.filter (! ·.isEmpty) := by
  induction ls generalizing gap with
  | nil => rw [squeezeAfter]
  | cons line ls ih =>
    by_cases hline : line = []
    · subst hline
      rw [squeezeAfter_nil_cons, ih]
      rfl
    · rw [squeezeAfter_cons_of_ne hline, List.filter_append, ih]
      cases gap <;> simp [hline]

theorem isChain_squeezeAfter (gap : Bool) (ls : List (List Char)) :
    (squeezeAfter gap ls).IsChain fun x y => x ≠ [] ∨ y ≠ [] := by
  induction ls generalizing gap with
  | nil => rw [squeezeAfter]; exact .nil
  | cons line ls ih =>
    by_cases hline : line = []
    · subst hline
      rw [squeezeAfter_nil_cons]
      exact ih true
    · have hfrom : (line :: squeezeAfter false ls).IsChain fun x y => x ≠ [] ∨ y ≠ [] :=
        List.isChain_cons.2 ⟨fun y _ => .inl hline, ih false⟩
      rw [squeezeAfter_cons_of_ne hline]
      cases gap with
      | true => exact List.isChain_cons.2 ⟨fun y hy => by cases hy; exact .inr hline, hfrom⟩
      | false => exact hfrom

@[simp] theorem squeezeAfter_squeezeAfter (gap : Bool) (ls : List (List Char)) :
    squeezeAfter false (squeezeAfter gap ls) = squeezeAfter gap ls := by
  induction ls generalizing gap with
  | nil => simp only [squeezeAfter]
  | cons line ls ih =>
    by_cases hline : line = []
    · subst hline
      rw [squeezeAfter_nil_cons, ih]
    · rw [squeezeAfter_cons_of_ne hline]
      cases gap with
      | true =>
        simp only [if_true, List.cons_append, List.nil_append, squeezeAfter_nil_cons,
          squeezeAfter_cons_of_ne hline, ih]
      | false =>
        simp only [Bool.false_eq_true, if_false, List.cons_append, List.nil_append,
          squeezeAfter_cons_of_ne hline, ih]

theorem squeezeAfter_append_nils {es : List (List Char)} (h : ∀ e ∈ es, e = []) (gap : Bool)
    (ls : List (List Char)) :
    squeezeAfter gap (es ++ ls) = squeezeAfter (gap || !es.isEmpty) ls := by
  induction es generalizing gap with
  | nil => rw [List.nil_append, List.isEmpty_nil, Bool.not_true, Bool.or_false]
  | cons e es ih =>
    rw [List.forall_mem_cons] at h
    obtain ⟨rfl, hes⟩ := h
    rw [List.cons_append, squeezeAfter_nil_cons, ih hes]
    simp

theorem exists_squeezeAfter_concat (h : line ≠ []) (gap : Bool) (ls : List (List Char)) :
    ∃ front, squeezeAfter gap (ls ++ [line]) = front ++ [line] := by
  induction ls generalizing gap with
  | nil =>
    rw [List.nil_append, squeezeAfter_cons_of_ne h, squeezeAfter, List.append_nil]
    cases gap with
    | true => exact ⟨[[]], rfl⟩
    | false => exact ⟨[], rfl⟩
  | cons first ls ih =>
    by_cases hfirst : first = []
    · subst hfirst
      rw [List.cons_append, squeezeAfter_nil_cons]
      exact ih true
    · obtain ⟨front, hfront⟩ := ih false
      rw [List.cons_append, squeezeAfter_cons_of_ne hfirst, hfront, ← List.append_assoc]
      exact ⟨_, rfl⟩

theorem dropWhile_isEmpty_append_cons (h : line ≠ []) (ls ms : List (List Char)) :
    (ls ++ line :: ms).dropWhile (·.isEmpty) = ls.dropWhile (·.isEmpty) ++ line :: ms := by
  have hempty : line.isEmpty = false := List.isEmpty_eq_false_iff.2 h
  rw [List.dropWhile_append]
  split
  · next hnil =>
    rw [List.isEmpty_iff] at hnil
    rw [hnil, List.dropWhile_cons_of_neg (by simp [hempty]), List.nil_append]
  · rfl

@[simp] theorem filter_dropWhile_isEmpty (ls : List (List Char)) :
    (ls.dropWhile (·.isEmpty)).filter (! ·.isEmpty) = ls.filter (! ·.isEmpty) := by
  conv_rhs => rw [← ls.takeWhile_append_dropWhile (p := (·.isEmpty)), List.filter_append]
  rw [List.self_eq_append_left, List.filter_eq_nil_iff]
  intro line hline
  simp [List.mem_takeWhile_imp hline]

theorem exists_squeeze_append_cons (h : line ≠ []) (ls ms : List (List Char)) :
    ∃ front, squeeze (ls ++ line :: ms) = front ++ line :: squeezeAfter false ms ∧
      front.filter (! ·.isEmpty) = ls.filter (! ·.isEmpty) := by
  obtain ⟨front, hfront⟩ := exists_squeezeAfter_concat h false (ls.dropWhile (·.isEmpty))
  refine ⟨front, ?_, ?_⟩
  · rw [squeeze, dropWhile_isEmpty_append_cons h, List.append_cons, squeezeAfter_append h, hfront,
      List.append_assoc, List.singleton_append]
  · have hfilter := filter_squeezeAfter false (ls.dropWhile (·.isEmpty) ++ [line])
    rw [hfront, List.filter_append, List.filter_append, filter_dropWhile_isEmpty] at hfilter
    exact List.append_cancel_right hfilter

theorem exists_squeeze_append_nils {es : List (List Char)} {x y : List Char} (hx : x ≠ [])
    (hy : y ≠ []) (hes : ∀ e ∈ es, e = []) (before after : List (List Char)) :
    ∃ front, squeeze (before ++ x :: (es ++ y :: after)) = front ++ x ::
        ((if es.isEmpty then [] else [[]]) ++ y :: squeezeAfter false after) ∧
      front.filter (! ·.isEmpty) = before.filter (! ·.isEmpty) := by
  obtain ⟨front, hfront, hkept⟩ := exists_squeeze_append_cons hx before (es ++ y :: after)
  refine ⟨front, ?_, hkept⟩
  rw [hfront, squeezeAfter_append_nils hes, squeezeAfter_cons_of_ne hy]
  cases es <;> simp

@[simp] theorem filter_squeeze (ls : List (List Char)) :
    (squeeze ls).filter (! ·.isEmpty) = ls.filter (! ·.isEmpty) := by
  simp [squeeze]

theorem head?_squeeze_ne_nil (h : (squeeze ls).head? = some line) : line ≠ [] := by
  rw [squeeze] at h
  cases hdrop : ls.dropWhile (·.isEmpty) with
  | nil => rw [hdrop, squeezeAfter] at h; cases h
  | cons first rest =>
    have hfirst : first ≠ [] := by
      have hnot := List.head?_dropWhile_not (·.isEmpty) ls
      rw [hdrop] at hnot
      simpa using hnot
    rw [hdrop, squeezeAfter_cons_of_ne hfirst] at h
    cases h
    exact hfirst

@[simp] theorem squeeze_squeeze (ls : List (List Char)) : squeeze (squeeze ls) = squeeze ls := by
  have hdrop : (squeeze ls).dropWhile (·.isEmpty) = squeeze ls := by
    cases hsqueeze : squeeze ls with
    | nil => rfl
    | cons first rest =>
      have hfirst : first ≠ [] := head?_squeeze_ne_nil (by rw [hsqueeze]; rfl)
      rw [List.dropWhile_cons_of_neg (by simpa using hfirst)]
  rw [squeeze, hdrop, squeeze, squeezeAfter_squeezeAfter]

@[simp] theorem squeeze_concat_nil (ls : List (List Char)) : squeeze (ls ++ [[]]) = squeeze ls := by
  rw [squeeze, List.dropWhile_append]
  split
  · next hnil =>
    rw [List.isEmpty_iff] at hnil
    rw [squeeze, hnil]
    rfl
  · simp [squeeze]

theorem exists_append_cons_nils (h : line ∈ ls) (hline : line ≠ []) :
    ∃ before last nils, ls = before ++ last :: nils ∧ last ≠ [] ∧ ∀ e ∈ nils, e = [] := by
  induction ls using List.reverseRecOn with
  | nil => cases h
  | append_singleton ls last ih =>
    by_cases hlast : last = []
    · subst hlast
      have hmem : line ∈ ls := by simpa [hline] using h
      obtain ⟨before, last, nils, rfl, hne, hnils⟩ := ih hmem
      refine ⟨before, last, nils ++ [[]], by simp, hne, ?_⟩
      simpa [or_imp, forall_and] using hnils
    · exact ⟨ls, last, [], rfl, hlast, by simp⟩

@[simp] theorem squeeze_eq_nil_iff : squeeze ls = [] ↔ ∀ line ∈ ls, line = [] := by
  constructor
  · intro h line hline
    by_contra hne
    have hmem := mem_squeeze hline hne
    rw [h] at hmem
    cases hmem
  · intro h
    rw [squeeze, List.dropWhile_eq_nil_iff.2, squeezeAfter]
    intro line hline
    rw [h line hline, List.isEmpty_nil]

theorem exists_squeeze_concat (h : squeeze ls ≠ []) :
    ∃ front last, squeeze ls = front ++ [last] ∧ last ≠ [] := by
  obtain ⟨line, hmem, hline⟩ : ∃ line ∈ ls, line ≠ [] := by simpa using h
  obtain ⟨before, last, nils, rfl, hne, hnils⟩ := exists_append_cons_nils hmem hline
  obtain ⟨front, hfront, -⟩ := exists_squeeze_append_cons hne before nils
  have hrest := squeezeAfter_append_nils hnils false []
  rw [List.append_nil, squeezeAfter] at hrest
  exact ⟨front, last, by rw [hfront, hrest], hne⟩

end AngularClient.Module
