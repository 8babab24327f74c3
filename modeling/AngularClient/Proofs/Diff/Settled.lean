import AngularClient.Diff.Settled
import AngularClient.Proofs.Diff.Script

namespace AngularClient.Diff

def DeletesFirst : Script → Prop
  | [] => False
  | e :: s => e.kind = .delete ∨ e.kind = .insert ∧ DeletesFirst s

/-- What is inserted first is inserted at the start of the old sequence, unless something is deleted
there as well. -/
def AtStart (s : Script) : Prop :=
  ∀ e ∈ s.head?, e.kind = .insert → e.old = 0 ∨ DeletesFirst s.tail

structure Connects {α : Type u} (old new : Array α) (s : Script) : Prop where
  leads : Leads old new 0 0 s old.size new.size
  positive : Positive s
  atStart : AtStart s

/-- A script that leads where another one does, empties no edit and deletes first if that one does. -/
structure Rearranges {α : Type u} (old new : Array α) (s t : Script) : Prop where
  leads : ∀ {i j i' j' : Nat}, Leads old new i j s i' j' → Leads old new i j t i' j'
  positive : Positive s → Positive t
  deletes : DeletesFirst s → DeletesFirst t

structure Settles {α : Type u} (old new : Array α) (s t : Script) : Prop
    extends Rearranges old new s t where
  atStart : Positive s → AtStart s → AtStart t

variable {α : Type u} {old new : Array α} {i j i' j' n : Nat} {e k : Edit} {p s t u : Script}

@[simp] theorem positive_cons : Positive (e :: s) ↔ 0 < e.len ∧ Positive s := List.forall_mem_cons

@[simp] theorem deletesFirst_cons :
    DeletesFirst (e :: s) ↔ e.kind = .delete ∨ e.kind = .insert ∧ DeletesFirst s := Iff.rfl

@[simp] theorem atStart_cons :
    AtStart (e :: s) ↔ (e.kind = .insert → e.old = 0 ∨ DeletesFirst s) := by
  simp [AtStart]

namespace Rearranges

theorem refl (s : Script) : Rearranges old new s s := ⟨id, id, id⟩

theorem trans (h : Rearranges old new s t) (h' : Rearranges old new t u) : Rearranges old new s u :=
  ⟨h'.leads ∘ h.leads, h'.positive ∘ h.positive, h'.deletes ∘ h.deletes⟩

theorem append_left (p : Script) (h : Rearranges old new s t) :
    Rearranges old new (p ++ s) (p ++ t) where
  leads hs := by
    obtain ⟨_, _, hp, hrest⟩ := hs.exists_of_append
    exact hp.append (h.leads hrest)
  positive hs := by
    rw [positive_append] at hs ⊢
    exact ⟨hs.1, h.positive hs.2⟩
  deletes hs := by
    induction p with
    | nil => exact h.deletes hs
    | cons e p ih => exact hs.imp_right (And.imp_right ih)

theorem settles_append (h : Rearranges old new s t) (hp : p ≠ []) :
    Settles old new (p ++ s) (p ++ t) where
  toRearranges := h.append_left p
  atStart _ hs := by
    obtain ⟨e, p, rfl⟩ := List.exists_cons_of_ne_nil hp
    rw [List.cons_append, atStart_cons] at hs ⊢
    exact fun hinsert => (hs hinsert).imp_right (h.append_left p).deletes

end Rearranges

namespace Settles

theorem refl (s : Script) : Settles old new s s := ⟨.refl s, fun _ => id⟩

theorem trans (h : Settles old new s t) (h' : Settles old new t u) : Settles old new s u :=
  ⟨h.toRearranges.trans h'.toRearranges,
    fun hpos hs => h'.atStart (h.positive hpos) (h.atStart hpos hs)⟩

theorem append_left (p : Script) (h : Settles old new s t) : Settles old new (p ++ s) (p ++ t) := by
  by_cases hp : p = []
  · rw [hp]
    exact h
  · exact h.settles_append hp

end Settles

theorem Connects.of_settles (hs : Connects old new s) (h : Settles old new s t) :
    Connects old new t :=
  ⟨h.leads hs.leads, h.positive hs.positive, h.atStart hs.positive hs.atStart⟩

section Edits

theorem settles_swap (hk : k.kind ≠ .keep) (he : e.kind ≠ .keep) (hne : k.kind ≠ e.kind)
    (s : Script) : Settles old new (k :: e :: s) (e :: k :: s) where
  leads h := by
    cases hk' : k.kind with
    | keep => exact absurd hk' hk
    | delete =>
      cases he' : e.kind with
      | keep => exact absurd he' he
      | delete => exact absurd (hk'.trans he'.symm) hne
      | insert =>
        simp only [leads_delete_iff hk', leads_insert_iff he'] at h ⊢
        exact ⟨h.2.1, h.1, h.2.2⟩
    | insert =>
      cases he' : e.kind with
      | keep => exact absurd he' he
      | delete =>
        simp only [leads_delete_iff he', leads_insert_iff hk'] at h ⊢
        exact ⟨h.2.1, h.1, h.2.2⟩
      | insert => exact absurd (hk'.trans he'.symm) hne
  positive h := by
    simp only [positive_cons] at h ⊢
    exact ⟨h.2.1, h.1, h.2.2⟩
  deletes h := by
    cases hk' : k.kind <;> cases he' : e.kind <;> simp_all
  atStart _ _ := by
    cases hk' : k.kind <;> cases he' : e.kind <;> simp_all

theorem settles_join (h : k.kind = e.kind) (s : Script) :
    Settles old new (k :: e :: s) (k.growDown e.len :: s) where
  leads hs := by
    cases hk : k.kind with
    | keep =>
      rw [leads_keep_iff hk, leads_keep_iff (h ▸ hk)] at hs
      obtain ⟨hi, hj, hsame, -, -, hsame', hrest⟩ := hs
      rw [Nat.add_assoc, Nat.add_assoc] at hrest
      exact (leads_keep_iff (e := k.growDown e.len) hk).2 ⟨hi, hj, hsame.append hsame', hrest⟩
    | delete =>
      rw [leads_delete_iff hk, leads_delete_iff (h ▸ hk), Nat.add_assoc] at hs
      exact (leads_delete_iff (e := k.growDown e.len) hk).2 ⟨hs.1, hs.2.2⟩
    | insert =>
      rw [leads_insert_iff hk, leads_insert_iff (h ▸ hk), Nat.add_assoc] at hs
      exact (leads_insert_iff (e := k.growDown e.len) hk).2 ⟨hs.1, hs.2.2⟩
  positive hs := by
    simp only [positive_cons, Edit.growDown] at hs ⊢
    exact ⟨Nat.add_pos_left hs.1 _, hs.2.2⟩
  deletes hs := by
    simp only [deletesFirst_cons, Edit.growDown, ← h] at hs ⊢
    exact hs.imp_right fun hinsert => ⟨hinsert.1, hinsert.2.elim (by simp [hinsert.1]) And.right⟩
  atStart _ hs := by
    simp only [atStart_cons, deletesFirst_cons, Edit.growDown, ← h] at hs ⊢
    exact fun hinsert => (hs hinsert).imp_right (Or.elim · (by simp [hinsert]) And.right)

theorem rearranges_join_growUp (hk : k.kind = .keep) (he : e.kind = .keep) (s : Script) :
    Rearranges old new (k :: e :: s) (e.growUp k.len :: s) where
  leads hs := by
    rw [leads_keep_iff hk, leads_keep_iff he, Nat.add_assoc, Nat.add_assoc,
      Nat.add_comm k.len] at hs
    obtain ⟨rfl, rfl, hsame, hi, hj, hsame', hrest⟩ := hs
    have hold : e.old - k.len = k.old := by omega
    have hnew : e.new - k.len = k.new := by omega
    refine (leads_keep_iff (e := e.growUp k.len) he).2 ⟨hold, hnew, ?_, hrest⟩
    rw [Edit.growUp, Nat.add_comm]
    exact hsame.append hsame'
  positive hs := by
    simp only [positive_cons, Edit.growUp, Edit.shiftUp] at hs ⊢
    exact ⟨Nat.add_pos_left hs.2.1 _, hs.2.2⟩
  deletes hs := by simp [hk] at hs

theorem settles_dropEmpty (hk : k.kind = .keep) (hlen : k.len = 0) (s : Script) :
    Settles old new (k :: s) s where
  leads hs := by
    rw [leads_keep_iff hk, hlen] at hs
    exact hs.2.2.2
  positive hs := (positive_cons.1 hs).2
  deletes hs := by simp [hk] at hs
  atStart hpos _ := by simp [hlen] at hpos

end Edits

section Keeping

theorem leads_consIfSome (h : Leads old new i j (e :: s) i' j') :
    Leads old new i j (consIfSome e s) i' j' := by
  rw [consIfSome]
  split
  · next hlen =>
    cases hk : e.kind with
    | keep =>
      rw [leads_keep_iff hk, hlen] at h
      exact h.2.2.2
    | delete =>
      rw [leads_delete_iff hk, hlen] at h
      exact h.2
    | insert =>
      rw [leads_insert_iff hk, hlen] at h
      exact h.2
  · exact h

theorem positive_consIfSome (e : Edit) (hs : Positive s) : Positive (consIfSome e s) := by
  rw [consIfSome]
  split
  · exact hs
  · next hlen => exact positive_cons.2 ⟨Nat.pos_of_ne_zero hlen, hs⟩

theorem reverse_consIfSome_append (e : Edit) (p s : List Edit) :
    (consIfSome e p).reverse ++ s = p.reverse ++ consIfSome e s := by
  rw [consIfSome, consIfSome]
  split
  · rfl
  · rw [List.reverse_cons, List.append_assoc, List.singleton_append]

theorem exists_keepBefore (k e : Edit) (n : Nat) (s : Script) :
    ∃ next rest, keepBefore k e n s = next :: rest ∧ next.kind = .keep := by
  cases s with
  | nil => exact ⟨_, _, rfl, rfl⟩
  | cons next s =>
    rw [keepBefore]
    split
    · next hnext => exact ⟨_, _, rfl, hnext⟩
    · exact ⟨_, _, rfl, rfl⟩

theorem rearranges_keepBefore (k e : Edit) (n : Nat) (s : Script) :
    Rearranges old new (⟨.keep, k.old + k.len - n, e.new + e.len - n, n⟩ :: s)
      (keepBefore k e n s) := by
  cases s with
  | nil => exact .refl _
  | cons next s =>
    rw [keepBefore]
    split
    · next hnext => exact rearranges_join_growUp rfl hnext s
    · exact .refl _

theorem settles_keepAfter (k e : Edit) (n : Nat) (before s : List Edit) :
    Settles old new (before.reverse ++ ⟨.keep, k.old, e.new, n⟩ :: s)
      ((keepAfter k e n before).reverse ++ s) := by
  cases before with
  | nil => exact .refl _
  | cons last before =>
    rw [keepAfter]
    split
    · next hlast =>
      rw [List.reverse_cons, List.reverse_cons, ← List.append_cons, ← List.append_cons]
      exact (settles_join hlast s).append_left _
    · simp only [List.reverse_cons, List.append_assoc, List.singleton_append]
      exact .refl _

end Keeping

section Shifts

variable [BEq α] [LawfulBEq α]

theorem agree_pos (h : old[i]? = new[j]?) (hn : 0 < n) : 0 < agree old new i j n := by
  obtain ⟨m, rfl⟩ := Nat.exists_eq_add_of_lt hn
  rw [Nat.zero_add, agree, if_pos (beq_iff_eq.2 h)]
  exact Nat.succ_pos _

theorem of_repeatsBefore (hn : repeatsBefore old new k e = n) (hpos : 0 < n) :
    e.kind = .insert ∧ n ≤ k.len ∧ n ≤ e.len ∧
      Same old new (k.old + k.len - n) (e.new + e.len - n) n := by
  rw [repeatsBefore] at hn
  split at hn
  · next hinsert =>
    have hle : n ≤ min k.len e.len := hn ▸ agreeBefore_le old new _ _ _
    have hsame := same_agreeBefore old new (n := min k.len e.len) (i := k.old + k.len)
      (j := e.new + e.len) (by omega) (by omega)
    rw [hn] at hsame
    exact ⟨hinsert, by omega, by omega, hsame⟩
  · omega

theorem of_repeatsAfter (hn : repeatsAfter old new e k = n) (hpos : 0 < n) :
    e.kind = .insert ∧ n ≤ k.len ∧ n ≤ e.len ∧ Same old new k.old e.new n := by
  rw [repeatsAfter] at hn
  split at hn
  · next hinsert =>
    have hle : n ≤ min k.len e.len := hn ▸ agree_le old new _ _ _
    have hsame := same_agree old new k.old e.new (min k.len e.len)
    rw [hn] at hsame
    exact ⟨hinsert, by omega, by omega, hsame⟩
  · omega

theorem repeatsAfter_pos (he : e.kind = .insert) (hk : k.kind = .keep) (hfirst : old[0]? = new[0]?)
    (hleads : Leads old new 0 0 (e :: k :: s) i' j') (hpos : Positive (e :: k :: s)) :
    0 < repeatsAfter old new e k := by
  rw [leads_insert_iff he, leads_keep_iff hk] at hleads
  simp only [positive_cons] at hpos
  rw [repeatsAfter, if_pos he, hleads.1, hleads.2.1]
  exact agree_pos hfirst (Nat.lt_min.2 ⟨hpos.2.1, hpos.1⟩)

theorem rearranges_shiftUp (hk : k.kind = .keep) (hn : repeatsBefore old new k e = n) (hpos : 0 < n)
    (s : Script) :
    Rearranges old new (k :: e :: s)
      (consIfSome (k.dropLast n) (e.shiftUp n :: keepBefore k e n s)) := by
  obtain ⟨he, hk_len, he_len, hrepeat⟩ := of_repeatsBefore hn hpos
  have hkept : Rearranges old new _ (keepBefore k e n s) := rearranges_keepBefore k e n s
  refine ⟨fun hs => leads_consIfSome ?_, fun hs => positive_consIfSome _ ?_, by simp [hk]⟩
  · rw [leads_keep_iff hk, leads_insert_iff he] at hs
    obtain ⟨rfl, rfl, hsame, hnew, hrest⟩ := hs
    have hold : k.old + (k.len - n) = k.old + k.len - n := by omega
    have hplace : e.new - n = k.new + (k.len - n) := by omega
    have hend : k.new + (k.len - n) + e.len = e.new + e.len - n := by omega
    refine (leads_keep_iff (e := k.dropLast n) hk).2 ⟨rfl, rfl, hsame.mono (Nat.sub_le _ _), ?_⟩
    refine (leads_insert_iff (e := e.shiftUp n) he).2 ⟨hplace, ?_⟩
    rw [Edit.dropLast, Edit.shiftUp, hold, hend]
    refine hkept.leads (.keep hrepeat ?_)
    rwa [Nat.sub_add_cancel (by omega), Nat.sub_add_cancel (by omega), hnew]
  · rw [positive_cons, positive_cons] at hs
    exact positive_cons.2 ⟨hs.2.1, hkept.positive (positive_cons.2 ⟨hpos, hs.2.2⟩)⟩

theorem settles_shiftUp (hk : k.kind = .keep) (hn : repeatsBefore old new k e = n) (hpos : 0 < n)
    (h : p ≠ [] ∨ n < k.len) (s : Script) :
    Settles old new (p ++ k :: e :: s)
      (p ++ consIfSome (k.dropLast n) (e.shiftUp n :: keepBefore k e n s)) := by
  have hshift := rearranges_shiftUp hk hn hpos s
  rcases h with hp | hlt
  · exact hshift.settles_append hp
  · have hlen : ¬ (k.dropLast n).len = 0 := Nat.sub_ne_zero_of_lt hlt
    refine Settles.append_left p ⟨hshift, fun _ _ => ?_⟩
    rw [consIfSome, if_neg hlen, atStart_cons]
    intro hinsert
    cases hk.symm.trans hinsert

theorem settles_shiftDown (hk : k.kind = .keep) (hn : repeatsAfter old new e k = n) (hpos : 0 < n)
    (s : Script) :
    Settles old new (e :: k :: s) (⟨.keep, k.old, e.new, n⟩ :: e.shiftDown n ::
      consIfSome (k.dropFirst n) s) := by
  obtain ⟨he, hk_len, he_len, hrepeat⟩ := of_repeatsAfter hn hpos
  refine ⟨⟨fun hs => ?_, fun hs => ?_, by simp [hk, he]⟩, by simp⟩
  · rw [leads_insert_iff he, leads_keep_iff hk] at hs
    obtain ⟨rfl, rfl, hnew, hsame, hrest⟩ := hs
    have hplace : k.new + n = e.new + n + e.len := by omega
    have hold : k.old + n + (k.len - n) = k.old + k.len := by omega
    have hend : e.new + n + e.len + (k.len - n) = e.new + e.len + k.len := by omega
    rw [← hnew, ← Nat.add_sub_of_le hk_len] at hsame
    refine .keep hrepeat ((leads_insert_iff (e := e.shiftDown n) he).2 ⟨rfl, leads_consIfSome ?_⟩)
    refine (leads_keep_iff (e := k.dropFirst n) hk).2 ⟨rfl, hplace, ?_, ?_⟩
    · rw [Edit.shiftDown, ← hplace]
      exact hsame.drop
    · dsimp only [Edit.dropFirst, Edit.shiftDown]
      rwa [hold, hend]
  · simp only [positive_cons] at hs ⊢
    exact ⟨hpos, hs.1, positive_consIfSome _ hs.2.2⟩

end Shifts

namespace View

variable [BEq α]

def script (v : View) : Script := v.before.reverse ++ v.edit :: v.after

theorem kind_moveUp (before : List Edit) (he : e.kind ≠ .keep) (after : List Edit) :
    (moveUp old new before e after).edit.kind ≠ .keep := by
  fun_induction moveUp old new before e after with
  | case1 | case4 => exact he
  | case2 _ _ _ _ _ _ _ ih | case3 _ _ _ _ _ _ _ _ ih | case6 _ _ _ _ _ _ ih => exact ih he
  | case5 e after prev before hkeep hkind ih => exact ih hkeep

/-- What moving up makes of a script.  An insertion that moves past all that is kept before it leaves
nothing in front of it. -/
inductive Raised (old new : Array α) (s : Script) (v : View) : Prop
  | settled (h : Settles old new s v.script)
  | top (k e : Edit) (rest : Script) (h : Settles old new s (k :: e :: rest)) (kept : k.kind = .keep)
    (pos : 0 < k.len) (repeats : repeatsBefore old new k e = k.len)
    (eq : v = ⟨[], e.shiftUp k.len, keepBefore k e k.len rest⟩)

theorem Raised.of_settles {v : View} (h : Settles old new s t) (ht : Raised old new t v) :
    Raised old new s v := by
  cases ht with
  | settled ht => exact .settled (h.trans ht)
  | top k e rest ht kept pos repeats eq => exact .top k e rest (h.trans ht) kept pos repeats eq

variable [LawfulBEq α]

theorem raised_moveUp (before : List Edit) (he : e.kind ≠ .keep) (after : List Edit) :
    Raised old new (before.reverse ++ e :: after) (moveUp old new before e after) := by
  fun_induction moveUp old new before e after with
  | case1 e after => exact .settled (.refl _)
  | case2 e after prev before hkeep n hshift ih =>
    have hle : n ≤ prev.len := (of_repeatsBefore rfl hshift.1).2.1
    -- Only at the front there may be nothing left of what was kept before the insertion.
    by_cases hfront : before = [] ∧ n = prev.len
    · obtain ⟨rfl, hn⟩ := hfront
      refine .top prev e after (.refl _) hkeep hshift.2 hn ?_
      have hlen : (prev.dropLast n).len = 0 := Nat.sub_eq_zero_of_le (Nat.le_of_eq hn.symm)
      rw [consIfSome, if_pos hlen, moveUp, hn]
    · have hleft : before.reverse ≠ [] ∨ n < prev.len :=
        (Classical.not_and_iff_not_or_not.1 hfront).imp (mt List.reverse_eq_nil_iff.1)
          (Nat.lt_of_le_of_ne hle)
      have hstep := settles_shiftUp hkeep rfl hshift.1 hleft after
      have hrest := ih he
      rw [reverse_consIfSome_append] at hrest
      rw [List.reverse_cons, ← List.append_cons]
      exact hrest.of_settles hstep
  | case3 e after prev before hkeep n hshift hlen ih =>
    rw [List.reverse_cons, ← List.append_cons]
    exact (ih he).of_settles ((settles_dropEmpty hkeep hlen _).append_left _)
  | case4 e after prev before hkeep n hshift hlen => exact .settled (.refl _)
  | case5 e after prev before hkeep hkind ih =>
    rw [List.reverse_cons, ← List.append_cons]
    exact (ih hkeep).of_settles ((settles_join hkind _).append_left _)
  | case6 e after prev before hkeep hkind ih =>
    rw [List.reverse_cons, ← List.append_cons]
    exact (ih he).of_settles ((settles_swap hkeep he hkind _).append_left _)

theorem settles_moveDown (before : List Edit) (he : e.kind ≠ .keep) (after : List Edit) :
    Settles old new (before.reverse ++ e :: after) (moveDown old new before e after).script := by
  fun_induction moveDown old new before e after with
  | case1 before e => exact .refl _
  | case2 before e next after hkeep n hshift ih =>
    exact (((settles_shiftDown hkeep rfl hshift.1 after).append_left _).trans
      (settles_keepAfter next e n before _)).trans (ih he)
  | case3 before e next after hkeep n hshift hlen ih =>
    exact (((settles_dropEmpty hkeep hlen _).append_left [e]).append_left _).trans (ih he)
  | case4 before e next after hkeep n hshift hlen => exact .refl _
  | case5 before e next after hkeep hkind ih =>
    exact ((settles_join hkind.symm _).append_left _).trans (ih he)
  | case6 before e next after hkeep hkind ih =>
    have hrest := ih he
    rw [List.reverse_cons, ← List.append_cons] at hrest
    exact ((settles_swap he hkeep (Ne.symm hkind) _).append_left _).trans hrest

theorem connects_moveDown (hk : k.kind = .keep) (hn : repeatsAfter old new e k = n) (hpos : 0 < n)
    (hleads : Leads old new 0 0 (e :: k :: s) old.size new.size) (hfull : Positive (e :: k :: s)) :
    Connects old new (moveDown old new [] e (k :: s)).script := by
  obtain ⟨he, hle, -, -⟩ := of_repeatsAfter hn hpos
  have hkind : (e.shiftDown n).kind ≠ .keep := fun hkeep => nomatch he.symm.trans hkeep
  have hshift := settles_shiftDown hk hn hpos s
  have hfirst : Connects old new (⟨.keep, k.old, e.new, n⟩ :: e.shiftDown n ::
      consIfSome (k.dropFirst n) s) := ⟨hshift.leads hleads, hshift.positive hfull, by simp⟩
  rw [moveDown, if_pos hk, dif_pos ⟨hn.symm ▸ hpos, Nat.lt_of_lt_of_le hpos hle⟩, hn]
  exact hfirst.of_settles (settles_moveDown [_] hkind _)

theorem connects_turn (h : Connects old new (p.reverse ++ e :: s)) (he : e.kind ≠ .keep) {v : View}
    (hv : moveUp old new p e s = v) :
    Connects old new (moveDown old new v.before v.edit v.after).script := by
  have hkind : v.edit.kind ≠ .keep := hv ▸ kind_moveUp p he s
  have hraised : Raised old new (p.reverse ++ e :: s) v := hv ▸ raised_moveUp p he s
  cases hraised with
  | settled hup => exact (h.of_settles hup).of_settles (settles_moveDown v.before hkind v.after)
  | top k e rest hup kept pos repeats eq =>
    obtain rfl := eq
    have hshift := rearranges_shiftUp kept repeats pos rest
    have hlen : (k.dropLast k.len).len = 0 := Nat.sub_self _
    rw [consIfSome, if_pos hlen] at hshift
    have hbefore := h.of_settles hup
    have hleads := hshift.leads hbefore.leads
    have hpos := hshift.positive hbefore.positive
    obtain ⟨next, after, hafter, hnext⟩ := exists_keepBefore k e k.len rest
    rw [hafter] at hleads hpos
    rw [hafter]
    have he : (e.shiftUp k.len).kind = .insert := (of_repeatsBefore repeats pos).1
    have hfirst := ((leads_keep_iff kept).1 hbefore.leads).2.2.1 0 pos
    exact connects_moveDown hnext rfl (repeatsAfter_pos he hnext hfirst hleads hpos) hleads hpos

end View

variable [BEq α]

theorem settleFrom_of_absent {kind : Kind} (turns : Nat) (h : ∀ e ∈ s, e.kind ≠ kind) :
    settleFrom kind old new turns p s = p.reverse ++ s := by
  fun_induction settleFrom kind old new turns p s with
  | case1 p s => rfl
  | case2 turns p => rw [List.append_nil]
  | case3 turns p e s he up down ih => exact absurd he (h e List.mem_cons_self)
  | case4 turns p e s he ih =>
    rw [ih fun k hk => h k (List.mem_cons_of_mem e hk), List.reverse_cons, ← List.append_cons]

theorem settle_of_kept (h : ∀ e ∈ s, e.kind = .keep) : settle old new s = s := by
  have hdelete : ∀ e ∈ s, e.kind ≠ .delete := fun e he => by simp [h e he]
  have hinsert : ∀ e ∈ s, e.kind ≠ .insert := fun e he => by simp [h e he]
  rw [settle, settleFrom_of_absent _ hdelete, List.reverse_nil, List.nil_append,
    settleFrom_of_absent _ hinsert, List.reverse_nil, List.nil_append]

variable [LawfulBEq α]

theorem connects_settleFrom {kind : Kind} (hkind : kind ≠ .keep) (turns : Nat)
    (h : Connects old new (p.reverse ++ s)) :
    Connects old new (settleFrom kind old new turns p s) := by
  fun_induction settleFrom kind old new turns p s with
  | case1 p s => exact h
  | case2 turns p => rwa [List.append_nil] at h
  | case3 turns p e s he up down ih =>
    refine ih ?_
    rw [List.reverse_cons, ← List.append_cons]
    exact View.connects_turn h (he ▸ hkind) rfl
  | case4 turns p e s he ih =>
    refine ih ?_
    rwa [List.reverse_cons, ← List.append_cons]

theorem connects_scriptBetween (old new : Array α) : Connects old new (scriptBetween old new) := by
  obtain ⟨hleads, hpos, hfirst⟩ := covers_scriptBetween old new
  rw [Nat.zero_add, Nat.zero_add] at hleads
  exact ⟨hleads, hpos, fun e he hinsert => .inl (hfirst e he hinsert)⟩

theorem connects_settle (h : Connects old new s) : Connects old new (settle old new s) :=
  connects_settleFrom Kind.noConfusion _ (connects_settleFrom Kind.noConfusion _ h)

end AngularClient.Diff
