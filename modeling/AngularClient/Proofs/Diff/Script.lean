import AngularClient.Diff.Script

namespace AngularClient.Diff

def Same {α : Type u} (old new : Array α) (i j len : Nat) : Prop :=
  ∀ k < len, old[i + k]? = new[j + k]?

inductive Leads {α : Type u} (old new : Array α) : Nat → Nat → Script → Nat → Nat → Prop
  | nil {i j : Nat} : Leads old new i j [] i j
  | keep {i j i' j' n : Nat} {s : Script} (same : Same old new i j n)
    (rest : Leads old new (i + n) (j + n) s i' j') : Leads old new i j (⟨.keep, i, j, n⟩ :: s) i' j'
  | delete {i j i' j' n : Nat} {s : Script} (b : Nat) (rest : Leads old new (i + n) j s i' j') :
    Leads old new i j (⟨.delete, i, b, n⟩ :: s) i' j'
  | insert {i j i' j' n : Nat} {s : Script} (a : Nat) (rest : Leads old new i (j + n) s i' j') :
    Leads old new i j (⟨.insert, a, j, n⟩ :: s) i' j'

def Positive (s : Script) : Prop := ∀ e ∈ s, 0 < e.len

variable {α : Type u} {old new : Array α} {i j i' j' m n : Nat} {s t : Script}

namespace Same

theorem zero (old new : Array α) (i j : Nat) : Same old new i j 0 := nofun

theorem mono (h : Same old new i j n) (hm : m ≤ n) : Same old new i j m :=
  fun k hk => h k (Nat.lt_of_lt_of_le hk hm)

theorem append (h : Same old new i j m) (h' : Same old new (i + m) (j + m) n) :
    Same old new i j (m + n) := by
  intro k hk
  by_cases hm : k < m
  · exact h k hm
  · have hrest := h' (k - m) (by omega)
    have hi : i + m + (k - m) = i + k := by omega
    have hj : j + m + (k - m) = j + k := by omega
    rwa [hi, hj] at hrest

theorem drop (h : Same old new i j (m + n)) : Same old new (i + m) (j + m) n := by
  intro k hk
  have hrest := h (m + k) (by omega)
  rwa [← Nat.add_assoc, ← Nat.add_assoc] at hrest

end Same

section Agreement

variable [BEq α] [LawfulBEq α]

theorem same_agree (old new : Array α) (i j n : Nat) : Same old new i j (agree old new i j n) := by
  induction n generalizing i j with
  | zero => exact .zero old new i j
  | succ n ih =>
    rw [agree]
    split
    · next heq =>
      rw [Nat.add_comm]
      refine Same.append ?_ (ih (i + 1) (j + 1))
      intro k hk
      obtain rfl : k = 0 := by omega
      exact eq_of_beq heq
    · exact .zero old new i j

theorem same_agreeBefore (old new : Array α) (hi : n ≤ i) (hj : n ≤ j) :
    Same old new (i - agreeBefore old new i j n) (j - agreeBefore old new i j n)
      (agreeBefore old new i j n) := by
  induction n generalizing i j with
  | zero => exact .zero old new i j
  | succ n ih =>
    rw [agreeBefore]
    split
    · next heq =>
      have hn := agreeBefore_le old new (i - 1) (j - 1) n
      have hbefore := ih (i := i - 1) (j := j - 1) (by omega) (by omega)
      generalize agreeBefore old new (i - 1) (j - 1) n = m at hn hbefore ⊢
      rw [Nat.sub_sub, Nat.sub_sub, Nat.add_comm 1 m] at hbefore
      refine hbefore.append ?_
      intro k hk
      have hi' : i - (m + 1) + m + k = i - 1 := by omega
      have hj' : j - (m + 1) + m + k = j - 1 := by omega
      rw [hi', hj']
      exact eq_of_beq heq
    · exact .zero old new i j

end Agreement

theorem leads_keep_iff {e : Edit} (h : e.kind = .keep) :
    Leads old new i j (e :: s) i' j' ↔ e.old = i ∧ e.new = j ∧ Same old new i j e.len ∧
      Leads old new (i + e.len) (j + e.len) s i' j' := by
  obtain ⟨_, a, b, n⟩ := e
  cases h
  constructor
  · rintro (_ | ⟨same, rest⟩)
    exact ⟨rfl, rfl, same, rest⟩
  · rintro ⟨rfl, rfl, same, rest⟩
    exact .keep same rest

@[simp] theorem leads_delete_iff {e : Edit} (h : e.kind = .delete) :
    Leads old new i j (e :: s) i' j' ↔ e.old = i ∧ Leads old new (i + e.len) j s i' j' := by
  obtain ⟨_, a, b, n⟩ := e
  cases h
  constructor
  · rintro (_ | _ | ⟨_, rest⟩)
    exact ⟨rfl, rest⟩
  · rintro ⟨rfl, rest⟩
    exact .delete b rest

@[simp] theorem leads_insert_iff {e : Edit} (h : e.kind = .insert) :
    Leads old new i j (e :: s) i' j' ↔ e.new = j ∧ Leads old new i (j + e.len) s i' j' := by
  obtain ⟨_, a, b, n⟩ := e
  cases h
  constructor
  · rintro (_ | _ | _ | ⟨_, rest⟩)
    exact ⟨rfl, rest⟩
  · rintro ⟨rfl, rest⟩
    exact .insert a rest

namespace Leads

theorem append {k l : Nat} (h : Leads old new i j s k l) (h' : Leads old new k l t i' j') :
    Leads old new i j (s ++ t) i' j' := by
  induction h with
  | nil => exact h'
  | keep same _ ih => exact .keep same (ih h')
  | delete b _ ih => exact .delete b (ih h')
  | insert a _ ih => exact .insert a (ih h')

theorem exists_of_append (h : Leads old new i j (s ++ t) i' j') :
    ∃ k l, Leads old new i j s k l ∧ Leads old new k l t i' j' := by
  induction s generalizing i j with
  | nil => exact ⟨i, j, .nil, h⟩
  | cons e s ih =>
    cases h with
    | keep same rest =>
      obtain ⟨k, l, hs, ht⟩ := ih rest
      exact ⟨k, l, .keep same hs, ht⟩
    | delete b rest =>
      obtain ⟨k, l, hs, ht⟩ := ih rest
      exact ⟨k, l, .delete b hs, ht⟩
    | insert a rest =>
      obtain ⟨k, l, hs, ht⟩ := ih rest
      exact ⟨k, l, .insert a hs, ht⟩

end Leads

@[simp]
theorem positive_append : Positive (s ++ t) ↔ Positive s ∧ Positive t := List.forall_mem_append

namespace Window

section EditIfSome

theorem leads_keepIfSome (h : Same old new i j n) :
    Leads old new i j (editIfSome .keep i j n) (i + n) (j + n) := by
  rw [editIfSome]
  split
  · next hn => subst hn; exact .nil
  · exact .keep h .nil

theorem leads_deleteIfSome (i j b n : Nat) :
    Leads old new i j (editIfSome .delete i b n) (i + n) j := by
  rw [editIfSome]
  split
  · next hn => subst hn; exact .nil
  · exact .delete b .nil

theorem leads_insertIfSome (i j a n : Nat) :
    Leads old new i j (editIfSome .insert a j n) i (j + n) := by
  rw [editIfSome]
  split
  · next hn => subst hn; exact .nil
  · exact .insert a .nil

@[simp]
theorem positive_editIfSome (kind : Kind) (i j n : Nat) : Positive (editIfSome kind i j n) := by
  rw [editIfSome]
  split
  · exact nofun
  · next hn =>
    intro e he
    rw [List.mem_singleton] at he
    rw [he]
    exact Nat.pos_of_ne_zero hn

theorem eq_of_mem_head?_editIfSome {kind : Kind} {e : Edit}
    (h : e ∈ (editIfSome kind i j n ++ s).head?) :
    (0 < n ∧ e = ⟨kind, i, j, n⟩) ∨ (n = 0 ∧ e ∈ s.head?) := by
  rw [editIfSome] at h
  split at h
  · next hn => exact .inr ⟨hn, h⟩
  · next hn => exact .inl ⟨Nat.pos_of_ne_zero hn, (Option.some.inj h).symm⟩

end EditIfSome

/-- A script that makes what a window shows of one sequence into what it shows of the other.  What it
inserts first it inserts where the window starts. -/
structure Covers (old new : Array α) (w : Window) (s : Script) : Prop where
  leads : Leads old new w.old w.new s (w.old + w.oldLen) (w.new + w.newLen)
  positive : Positive s
  first : ∀ e ∈ s.head?, e.kind = .insert → e.old = w.old

variable {w : Window}

theorem covers_exchange (old new : Array α) (w : Window) :
    Covers old new w (editIfSome .delete w.old w.new w.oldLen ++
      editIfSome .insert w.old w.new w.newLen) where
  leads := (leads_deleteIfSome _ _ _ _).append (leads_insertIfSome _ _ _ _)
  positive := positive_append.2 ⟨positive_editIfSome _ _ _ _, positive_editIfSome _ _ _ _⟩
  first e he hinsert := by
    rcases eq_of_mem_head?_editIfSome he with ⟨-, rfl⟩ | ⟨-, he⟩
    · cases hinsert
    · rw [← List.append_nil (editIfSome .insert _ _ _)] at he
      rcases eq_of_mem_head?_editIfSome he with ⟨-, rfl⟩ | ⟨-, he⟩
      · rfl
      · cases he

theorem covers_split {x y : Nat} (h : w.splits x y = true)
    (hs : Covers old new ⟨w.old, x, w.new, y⟩ s)
    (ht : Covers old new ⟨w.old + x, w.oldLen - x, w.new + y, w.newLen - y⟩ t) :
    Covers old new w (s ++ t) where
  leads := by
    have hlast := ht.leads
    simp only [splits, Bool.and_eq_true, decide_eq_true_eq] at h
    dsimp only at hlast
    have hold : w.old + x + (w.oldLen - x) = w.old + w.oldLen := by omega
    have hnew : w.new + y + (w.newLen - y) = w.new + w.newLen := by omega
    rw [hold, hnew] at hlast
    exact hs.leads.append hlast
  positive := positive_append.2 ⟨hs.positive, ht.positive⟩
  first e he := by
    cases s with
    | nil =>
      -- The first part shows something, so its script is not empty.
      have hleads := hs.leads
      dsimp only at hleads
      simp only [splits, Bool.and_eq_true, decide_eq_true_eq] at h
      generalize hx : w.old + x = i at hleads
      generalize hy : w.new + y = j at hleads
      cases hleads
      omega
    | cons e' s => exact hs.first e he

theorem covers_around {first last : Nat} (hfirst : Same old new w.old w.new first)
    (hlast : Same old new (w.old + w.oldLen - last) (w.new + w.newLen - last) last)
    (hold : first + last ≤ w.oldLen) (hnew : first + last ≤ w.newLen)
    (hs : Covers old new (w.inside first last) s) :
    Covers old new w (editIfSome .keep w.old w.new first ++ s ++
      editIfSome .keep (w.old + w.oldLen - last) (w.new + w.newLen - last) last) where
  leads := by
    have hmiddle := hs.leads
    have hend := leads_keepIfSome hlast
    dsimp only [inside] at hmiddle
    have hold' : w.old + first + (w.oldLen - first - last) = w.old + w.oldLen - last := by omega
    have hnew' : w.new + first + (w.newLen - first - last) = w.new + w.newLen - last := by omega
    rw [hold', hnew'] at hmiddle
    rw [Nat.sub_add_cancel (by omega), Nat.sub_add_cancel (by omega)] at hend
    exact ((leads_keepIfSome hfirst).append hmiddle).append hend
  positive := by
    simp [hs.positive]
  first e he hinsert := by
    rw [List.append_assoc] at he
    rcases eq_of_mem_head?_editIfSome he with ⟨-, rfl⟩ | ⟨rfl, hrest⟩
    · cases hinsert
    · cases s with
      | nil =>
        rw [List.nil_append, ← List.append_nil (editIfSome _ _ _ _)] at hrest
        rcases eq_of_mem_head?_editIfSome hrest with ⟨-, rfl⟩ | ⟨-, hnone⟩
        · cases hinsert
        · cases hnone
      | cons e' s => exact hs.first e hrest hinsert

variable [BEq α] [LawfulBEq α]

theorem covers_script (w : Window) : Covers old new w (script old new w) := by
  fun_induction script old new w with
  | case1 w first last v middle ihupper ihlower =>
    have hfirst_le : first ≤ min w.oldLen w.newLen := agree_le old new _ _ _
    have hlast_le : last ≤ min (w.oldLen - first) (w.newLen - first) :=
      agreeBefore_le old new _ _ _
    refine covers_around (same_agree old new _ _ _)
      (same_agreeBefore old new (by omega) (by omega)) (by omega) (by omega) ?_
    have hexchange : ¬ (v.oldLen = 0 ∨ v.newLen = 0) →
        Covers old new v [⟨.delete, v.old, v.new, v.oldLen⟩, ⟨.insert, v.old, v.new, v.newLen⟩] := by
      intro hlens
      rw [not_or] at hlens
      have hboth := covers_exchange old new v
      rwa [editIfSome, editIfSome, if_neg hlens.1, if_neg hlens.2] at hboth
    show Covers old new v middle
    simp only [middle, Bool.or_eq_true, decide_eq_true_eq]
    split
    · exact covers_exchange old new v
    · next hlens =>
      split
      · exact hexchange hlens
      · next x y _ =>
        split
        · next hsplits =>
          exact covers_split hsplits (ihupper x y hsplits) (ihlower x y hsplits)
        · exact hexchange hlens

@[simp] theorem agree_self (a : Array α) (i n : Nat) : agree a a i i n = n := by
  induction n generalizing i with
  | zero => rfl
  | succ n ih => rw [agree, if_pos (beq_self_eq_true _), ih]

end Window

variable [BEq α] [LawfulBEq α]

theorem covers_scriptBetween (old new : Array α) :
    Window.Covers old new ⟨0, old.size, 0, new.size⟩ (scriptBetween old new) :=
  Window.covers_script _

@[simp] theorem scriptBetween_self (a : Array α) :
    scriptBetween a a = Window.editIfSome .keep 0 0 a.size := by
  rw [scriptBetween, Window.script]
  simp [Window.inside, Window.editIfSome, agreeBefore]

end AngularClient.Diff
