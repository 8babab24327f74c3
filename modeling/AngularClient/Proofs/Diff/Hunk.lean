import AngularClient.Diff.Unified
import AngularClient.Proofs.Diff.Settled

/-! Blocks and hunks: blocks tile two sequences, one next to the other, and hunks are what is left of
them when kept entries are left out.  Where a change lies on a side on which it has nothing is only
what its first edit says, so that it is known for the old sequence at the start and nowhere else. -/

namespace AngularClient.Diff

def KeptNext : List Block → Prop
  | .change .. :: _ => False
  | _ => True

/-- Blocks that lie between two pairs of places, one next to the other. -/
inductive Tiles {α : Type u} (old new : Array α) : Nat → Nat → List Block → Nat → Nat → Prop
  | nil {i j : Nat} : Tiles old new i j [] i j
  | keep {i j i' j' len : Nat} {bs : List Block} (pos : 0 < len) (same : Same old new i j len)
    (rest : Tiles old new (i + len) (j + len) bs i' j') :
    Tiles old new i j (.keep i j len :: bs) i' j'
  | change {i j i' j' a oldLen b newLen : Nat} {bs : List Block} (hold : 0 < oldLen → a = i)
    (hnew : 0 < newLen → b = j) (pos : 0 < oldLen + newLen) (next : KeptNext bs)
    (rest : Tiles old new (i + oldLen) (j + newLen) bs i' j') :
    Tiles old new i j (.change a oldLen b newLen :: bs) i' j'

inductive CutInto : List Block → List Hunk → Prop
  | nil : CutInto [] []
  | kept (a b len : Nat) : CutInto [.keep a b len] []
  | whole {h : Hunk} (hne : h ≠ []) : CutInto h [h]
  | split {h : Hunk} {a b len first last : Nat} {bs : List Block} {hs : List Hunk}
    (hfirst : 0 < first) (hlast : 0 < last) (hle : first + last ≤ len)
    (rest : CutInto (.keep (a + (len - last)) (b + (len - last)) last :: bs) hs) :
    CutInto (h ++ .keep a b len :: bs) ((h ++ [.keep a b first]) :: hs)
  | trimStart {a b len last : Nat} {bs : List Block} {hs : List Hunk} (hlast : 0 < len → 0 < last)
    (hle : last ≤ len)
    (rest : CutInto (.keep (a + (len - last)) (b + (len - last)) last :: bs) hs) :
    CutInto (.keep a b len :: bs) hs
  | trimEnd {a b len first : Nat} {bs : List Block} {hs : List Hunk} (hfirst : 0 < len → 0 < first)
    (hle : first ≤ len) (rest : CutInto (bs ++ [.keep a b first]) hs) :
    CutInto (bs ++ [.keep a b len]) hs

/-- Hunks that lie in order between two pairs of places, with the same entries before, between and
after them. -/
inductive Patches {α : Type u} (old new : Array α) : Nat → Nat → List Hunk → Nat → Nat → Prop
  | nil {i j : Nat} : Patches old new i j [] i j
  | gap {i j i' j' n : Nat} {hs : List Hunk} (same : Same old new i j n)
    (rest : Patches old new (i + n) (j + n) hs i' j') : Patches old new i j hs i' j'
  | hunk {i j k l i' j' : Nat} {h : Hunk} {hs : List Hunk} (hne : h ≠ [])
    (start : ∀ b ∈ h.head?, b.oldStart = i) (tiles : Tiles old new i j h k l)
    (rest : Patches old new k l hs i' j') : Patches old new i j (h :: hs) i' j'

structure Spans (j i' j' : Nat) (bs : List Block) : Prop where
  first : ∀ b ∈ bs.head?, b.newStart = j
  last : ∀ b ∈ bs.getLast?, b.oldEnd = i' ∧ b.newEnd = j'

variable {α : Type u} {old new : Array α} {i j i' j' k l m n len : Nat} {s : Script}
  {bs cs ds : List Block}

section Blocks

@[simp]
theorem blocks_cons (e : Edit) (s : Script) : Script.blocks (e :: s) = e.cons s.blocks := rfl

theorem Tiles.cons_keep (pos : 0 < n) (same : Same old new i j n)
    (h : Tiles old new (i + n) (j + n) bs i' j') :
    Tiles old new i j (Edit.cons ⟨.keep, i, j, n⟩ bs) i' j' := by
  cases h with
  | nil => exact .keep pos same .nil
  | keep _ same' rest =>
    rw [Nat.add_assoc, Nat.add_assoc] at rest
    exact .keep (Nat.add_pos_left pos _) (same.append same') rest
  | change hold hnew hpos next rest => exact .keep pos same (.change hold hnew hpos next rest)

theorem Tiles.cons_delete (b : Nat) (pos : 0 < n) (h : Tiles old new (i + n) j bs i' j') :
    Tiles old new i j (Edit.cons ⟨.delete, i, b, n⟩ bs) i' j' := by
  cases h with
  | nil => exact .change (fun _ => rfl) nofun pos trivial .nil
  | keep hpos same rest => exact .change (fun _ => rfl) nofun pos trivial (.keep hpos same rest)
  | change _ hnew _ next rest =>
    rw [Nat.add_assoc] at rest
    refine .change (fun _ => rfl) (fun hlen => ?_) (by omega) next rest
    rw [if_neg (Nat.ne_of_gt hlen)]
    exact hnew hlen

theorem Tiles.cons_insert (a : Nat) (pos : 0 < n) (h : Tiles old new i (j + n) bs i' j') :
    Tiles old new i j (Edit.cons ⟨.insert, a, j, n⟩ bs) i' j' := by
  cases h with
  | nil => exact .change nofun (fun _ => rfl) (Nat.lt_add_left 0 pos) trivial .nil
  | keep hpos same rest =>
    exact .change nofun (fun _ => rfl) (Nat.lt_add_left 0 pos) trivial (.keep hpos same rest)
  | change hold _ _ next rest =>
    rw [Nat.add_assoc] at rest
    refine .change (fun hlen => ?_) (fun _ => rfl) (by omega) next rest
    rw [if_neg (Nat.ne_of_gt hlen)]
    exact hold hlen

theorem tiles_blocks (h : Leads old new i j s i' j') (hs : Positive s) :
    Tiles old new i j s.blocks i' j' := by
  induction h with
  | nil => exact .nil
  | keep same _ ih =>
    rw [positive_cons] at hs
    exact (ih hs.2).cons_keep hs.1 same
  | delete b _ ih =>
    rw [positive_cons] at hs
    exact (ih hs.2).cons_delete b hs.1
  | insert a _ ih =>
    rw [positive_cons] at hs
    exact (ih hs.2).cons_insert a hs.1

theorem cons_insert_change (a b c d oldLen newLen n : Nat) (bs : List Block) :
    Edit.cons ⟨.insert, a, b, n⟩ (.change c oldLen d newLen :: bs) =
      .change (if oldLen = 0 then a else c) oldLen b (n + newLen) :: bs := rfl

theorem blocks_of_deletesFirst (h : Leads old new i j s i' j') (hs : Positive s)
    (hdelete : DeletesFirst s) :
    ∃ oldLen b newLen bs, 0 < oldLen ∧ s.blocks = .change i oldLen b newLen :: bs := by
  induction h with
  | nil => cases hdelete
  | keep => simp at hdelete
  | delete b rest =>
    rw [positive_cons] at hs
    have htiles := tiles_blocks rest hs.2
    rw [blocks_cons]
    generalize Script.blocks _ = bs at htiles ⊢
    cases htiles with
    | nil | keep => exact ⟨_, _, _, _, hs.1, rfl⟩
    | change => exact ⟨_, _, _, _, Nat.add_pos_left hs.1 _, rfl⟩
  | @insert _ b _ _ n _ a _ ih =>
    rw [positive_cons] at hs
    obtain ⟨oldLen, d, newLen, bs, hpos, hblocks⟩ := ih hs.2 (by simpa using hdelete)
    refine ⟨oldLen, b, n + newLen, bs, hpos, ?_⟩
    rw [blocks_cons, hblocks, cons_insert_change, if_neg (Nat.ne_of_gt hpos)]

theorem Connects.oldStart_blocks (h : Connects old new s) :
    ∀ b ∈ s.blocks.head?, b.oldStart = 0 := by
  obtain ⟨hleads, hpos, hstart⟩ := h
  cases s with
  | nil => exact nofun
  | cons e s =>
    rw [positive_cons] at hpos
    rw [atStart_cons] at hstart
    rw [blocks_cons]
    cases hleads with
    | keep | delete =>
      rcases Script.blocks s with _ | ⟨_ | _, _⟩ <;> rintro _ ⟨⟩ <;> rfl
    | insert a rest =>
      rcases hstart rfl with rfl | hdelete
      · have htiles := tiles_blocks rest hpos.2
        generalize Script.blocks s = bs, old.size = i', new.size = j' at htiles ⊢
        cases htiles with
        | nil | keep => rintro _ ⟨⟩; rfl
        | change hold =>
          rw [cons_insert_change]
          rintro _ ⟨⟩
          show ite _ _ _ = 0
          split
          · rfl
          · next hlen => exact hold (Nat.pos_of_ne_zero hlen)
      · obtain ⟨oldLen, _, newLen, bs, hlen, hblocks⟩ := blocks_of_deletesFirst rest hpos.2 hdelete
        rw [hblocks, cons_insert_change, if_neg (Nat.ne_of_gt hlen)]
        rintro _ ⟨⟩
        rfl

end Blocks

section Cut

variable {radius : Nat} {hs : List Hunk}

theorem cutInto_cut (hradius : 0 < radius) (hunk : Hunk) (bs : List Block) :
    CutInto (hunk ++ bs) (Hunk.cut radius hunk bs) := by
  fun_induction Hunk.cut radius hunk bs with
  | case1 => exact .nil
  | case2 a b len => exact .kept a b len
  | case3 hunk hne hkept =>
    rw [List.append_nil]
    exact .whole hne
  | case4 hunk a b len bs hlen ih => exact .split hradius hradius (by omega) ih
  | case5 hunk a b len bs hlen ih => rwa [List.append_cons]
  | case6 hunk c bs hchange ih => rwa [List.append_cons]

theorem cutInto_of_trimStart (hradius : 0 < radius) (h : CutInto (Hunk.trimStart radius bs) hs) :
    CutInto bs hs := by
  rcases bs with _ | ⟨⟨a, b, len⟩ | _, bs⟩
  · exact h
  · have hlen : len - radius = len - min len radius := by omega
    rw [Hunk.trimStart, hlen] at h
    exact .trimStart (fun hpos => Nat.lt_min.2 ⟨hpos, hradius⟩) (Nat.min_le_left _ _) h
  · exact h

theorem trimEnd_cases (radius : Nat) (bs : List Block) :
    Hunk.trimEnd radius bs = bs ∨ ∃ cs a b len, bs = cs ++ [.keep a b len] ∧
      Hunk.trimEnd radius bs = cs ++ [.keep a b (min len radius)] := by
  fun_induction Hunk.trimEnd radius bs with
  | case1 a b len => exact .inr ⟨[], a, b, len, rfl, rfl⟩
  | case2 c bs hkept ih =>
    rcases ih with heq | ⟨cs, a, b, len, rfl, heq⟩
    · exact .inl (congrArg (c :: ·) heq)
    · exact .inr ⟨c :: cs, a, b, len, rfl, congrArg (c :: ·) heq⟩
  | case3 => exact .inl rfl

theorem cutInto_of_trimEnd (hradius : 0 < radius) (h : CutInto (Hunk.trimEnd radius bs) hs) :
    CutInto bs hs := by
  rcases trimEnd_cases radius bs with heq | ⟨cs, a, b, len, rfl, heq⟩
  · rwa [heq] at h
  · rw [heq] at h
    exact .trimEnd (fun hpos => Nat.lt_min.2 ⟨hpos, hradius⟩) (Nat.min_le_left _ _) h

theorem cutInto_ofScript (hradius : 0 < radius) (s : Script) :
    CutInto s.blocks (Hunk.ofScript radius s) :=
  cutInto_of_trimStart hradius (cutInto_of_trimEnd hradius (cutInto_cut hradius [] _))

end Cut

section Patches

variable {h : Hunk} {hs : List Hunk} {a b first last : Nat}

namespace Tiles

theorem le (h : Tiles old new i j bs i' j') : i ≤ i' ∧ j ≤ j' := by
  induction h with
  | nil => exact ⟨Nat.le_refl _, Nat.le_refl _⟩
  | keep _ _ _ ih => omega
  | change _ _ _ _ _ ih => omega

theorem exists_of_append (h : Tiles old new i j (bs ++ cs) i' j') :
    ∃ k l, Tiles old new i j bs k l ∧ Tiles old new k l cs i' j' := by
  induction bs generalizing i j with
  | nil => exact ⟨i, j, .nil, h⟩
  | cons c bs ih =>
    cases h with
    | keep pos same rest =>
      obtain ⟨k, l, hbs, hcs⟩ := ih rest
      exact ⟨k, l, .keep pos same hbs, hcs⟩
    | change hold hnew pos next rest =>
      obtain ⟨k, l, hbs, hcs⟩ := ih rest
      refine ⟨k, l, .change hold hnew pos ?_ hbs, hcs⟩
      rcases bs with _ | ⟨_ | _, _⟩ <;> first | exact trivial | exact next

theorem append_keep (h : Tiles old new i j bs k l)
    (hkept : Tiles old new k l (.keep a b len :: cs) i' j') :
    Tiles old new i j (bs ++ .keep a b len :: cs) i' j' := by
  induction h with
  | nil => exact hkept
  | keep pos same _ ih => exact .keep pos same (ih hkept)
  | @change _ _ _ _ _ _ _ _ bs hold hnew pos next _ ih =>
    refine .change hold hnew pos ?_ (ih hkept)
    rcases bs with _ | ⟨_ | _, _⟩ <;> first | exact trivial | exact next

theorem keep_last (h : Tiles old new i j (.keep a b len :: bs) i' j') (hlast : 0 < len → 0 < last)
    (hle : last ≤ len) :
    Same old new i j (len - last) ∧
      Tiles old new (i + (len - last)) (j + (len - last))
        (.keep (a + (len - last)) (b + (len - last)) last :: bs) i' j' := by
  cases h with
  | keep pos same rest =>
    refine ⟨same.mono (Nat.sub_le _ _), .keep (hlast pos) ?_ ?_⟩
    · rw [← Nat.sub_add_cancel hle] at same
      exact same.drop
    · rwa [Nat.add_assoc, Nat.add_assoc, Nat.sub_add_cancel hle]

theorem keep_first (h : Tiles old new i j (bs ++ .keep a b len :: cs) i' j')
    (hfirst : 0 < len → 0 < first) (hle : first ≤ len) :
    Tiles old new i j (bs ++ [.keep a b first]) (a + first) (b + first) ∧
      Same old new (a + first) (b + first) (len - first) ∧
      Tiles old new a b (.keep a b len :: cs) i' j' := by
  obtain ⟨k, l, hbs, hcs⟩ := h.exists_of_append
  cases hcs with
  | keep pos same rest =>
    refine ⟨hbs.append_keep (.keep (hfirst pos) (same.mono hle) .nil), ?_, .keep pos same rest⟩
    rw [← Nat.add_sub_of_le hle] at same
    exact same.drop

end Tiles

theorem forall_head?_keep_iff (p : Nat → Nat → Prop) :
    (∀ c ∈ (bs ++ .keep a b first :: cs).head?, p c.oldStart c.newStart) ↔
      ∀ c ∈ (bs ++ .keep a b len :: ds).head?, p c.oldStart c.newStart := by
  cases bs <;> simp [Block.oldStart, Block.newStart]

theorem Patches.le (h : Patches old new i j hs i' j') : i ≤ i' ∧ j ≤ j' := by
  induction h with
  | nil => exact ⟨Nat.le_refl _, Nat.le_refl _⟩
  | gap _ _ ih => omega
  | hunk _ _ tiles _ ih =>
    have hle := tiles.le
    omega

theorem Patches.append_gap (h : Patches old new i j hs i' j') (same : Same old new i' j' n) :
    Patches old new i j hs (i' + n) (j' + n) := by
  induction h with
  | nil => exact .gap same .nil
  | gap same' _ ih => exact .gap same' (ih same)
  | hunk hne start tiles _ ih => exact .hunk hne start tiles (ih same)

theorem patches_of_cutInto (h : CutInto bs hs) (htiles : Tiles old new i j bs i' j')
    (hstart : ∀ b ∈ bs.head?, b.oldStart = i) : Patches old new i j hs i' j' := by
  induction h generalizing i j i' j' with
  | nil =>
    cases htiles
    exact .nil
  | kept a b len =>
    cases htiles with
    | keep pos same rest =>
      cases rest
      exact .gap same .nil
  | whole hne => exact .hunk hne hstart htiles .nil
  | @split h a b len first last bs hs hfirst hlast hle _ ih =>
    obtain ⟨hfront, hsame, hkept⟩ := htiles.keep_first (fun _ => hfirst) (by omega)
    obtain ⟨-, hrest⟩ := hkept.keep_last (fun _ => hlast) (by omega)
    have hpatches := ih hrest (by rintro _ ⟨⟩; rfl)
    have hold : a + (len - last) = a + first + (len - last - first) := by omega
    have hnew : b + (len - last) = b + first + (len - last - first) := by omega
    rw [hold, hnew] at hpatches
    exact .hunk (by simp) ((forall_head?_keep_iff fun k _ => k = i).2 hstart) hfront
      (.gap (hsame.mono (by omega)) hpatches)
  | trimStart hlast hle _ ih =>
    obtain ⟨hsame, hrest⟩ := htiles.keep_last hlast hle
    refine .gap hsame (ih hrest ?_)
    rintro _ ⟨⟩
    rw [Block.oldStart, ← hstart _ rfl, Block.oldStart]
  | @trimEnd a b len first bs hs hfirst hle _ ih =>
    obtain ⟨hfront, hsame, hkept⟩ := htiles.keep_first hfirst hle
    cases hkept with
    | keep _ _ rest =>
      cases rest
      have hpatches := ih hfront ((forall_head?_keep_iff fun k _ => k = i).2 hstart)
      rw [← Nat.add_sub_of_le hle, ← Nat.add_assoc, ← Nat.add_assoc]
      exact hpatches.append_gap hsame

end Patches

section Spans

variable {a b first last : Nat} {c d : Block}

theorem spans_keep (a b len : Nat) : Spans b (a + len) (b + len) [.keep a b len] := by
  constructor <;> rintro _ ⟨⟩
  · rfl
  · exact ⟨rfl, rfl⟩

theorem spans_concat_keep_iff : Spans j (a + len) (b + len) (bs ++ [.keep a b len]) ↔
    ∀ c ∈ (bs ++ [Block.keep a b len]).head?, c.newStart = j := by
  refine ⟨Spans.first, fun hfirst => ⟨hfirst, ?_⟩⟩
  rw [List.getLast?_concat]
  rintro _ ⟨⟩
  exact ⟨rfl, rfl⟩

theorem forall_getLast?_keep_iff (p : Nat → Nat → Prop) (hle : last ≤ len) :
    (∀ c ∈ (bs ++ .keep a b len :: cs).getLast?, p c.oldEnd c.newEnd) ↔
      ∀ c ∈ (Block.keep (a + (len - last)) (b + (len - last)) last :: cs).getLast?,
        p c.oldEnd c.newEnd := by
  have hold : a + (len - last) + last = a + len := by omega
  have hnew : b + (len - last) + last = b + len := by omega
  cases cs <;> simp [Block.oldEnd, Block.newEnd, List.getLast?_cons, hold, hnew]

theorem spans_append_keep_iff (hle : last ≤ len) : Spans j i' j' (bs ++ .keep a b len :: cs) ↔
    Spans j (a + first) (b + first) (bs ++ [.keep a b first]) ∧
      Spans (b + (len - last)) i' j' (.keep (a + (len - last)) (b + (len - last)) last :: cs) := by
  rw [spans_concat_keep_iff]
  constructor
  · rintro ⟨hfirst, hend⟩
    refine ⟨(forall_head?_keep_iff fun _ l => l = j).2 hfirst, ⟨?_, ?_⟩⟩
    · rintro _ ⟨⟩
      rfl
    · exact (forall_getLast?_keep_iff (fun k l => k = i' ∧ l = j') hle).1 hend
  · rintro ⟨hfirst, -, hend⟩
    exact ⟨(forall_head?_keep_iff fun _ l => l = j).1 hfirst,
      (forall_getLast?_keep_iff (fun k l => k = i' ∧ l = j') hle).2 hend⟩

theorem spans_keep_cons_iff (hle : last ≤ len) : Spans b i' j' (.keep a b len :: cs) ↔
    Spans (b + (len - last)) i' j' (.keep (a + (len - last)) (b + (len - last)) last :: cs) := by
  rw [← List.nil_append (.keep a b len :: cs), spans_append_keep_iff hle, List.nil_append]
  exact and_iff_right (spans_keep a b 0)

theorem Tiles.eq_singleton (h : Tiles old new i j bs i' j') (hd : d ∈ bs.getLast?)
    (hnone : i' = i ∨ j' = j) : ∃ a oldLen b newLen, bs = [.change a oldLen b newLen] ∧
      i' = i + oldLen ∧ j' = j + newLen := by
  cases h with
  | nil => cases hd
  | keep pos _ rest =>
    have hle := rest.le
    omega
  | change _ _ pos next rest =>
    cases rest with
    | nil => exact ⟨_, _, _, _, rfl, rfl, rfl⟩
    | keep pos' _ rest =>
      have hle := rest.le
      omega
    | change => cases next

theorem Tiles.spans_iff (h : Tiles old new i j bs i' j') (hc : c ∈ bs.head?) (hd : d ∈ bs.getLast?)
    (hstart : c.oldStart = i) : Spans j i' j' bs ↔
      c.newStart = j ∧ d.oldEnd - c.oldStart = i' - i ∧ d.newEnd - c.newStart = j' - j := by
  constructor
  · rintro ⟨hfirst, hlast⟩
    obtain ⟨hold, hnew⟩ := hlast d hd
    rw [hfirst c hc, hold, hnew, hstart]
    exact ⟨rfl, rfl, rfl⟩
  · rintro ⟨hfirst, hold, hnew⟩
    refine ⟨fun e he => Option.mem_unique he hc ▸ hfirst, fun e he => ?_⟩
    rw [Option.mem_unique he hd]
    by_cases hnone : i' = i ∨ j' = j
    · obtain ⟨a, oldLen, b, newLen, rfl, rfl, rfl⟩ := h.eq_singleton hd hnone
      cases hc
      cases hd
      exact ⟨congrArg (· + oldLen) hstart, congrArg (· + newLen) hfirst⟩
    · have hle := h.le
      omega

end Spans

end AngularClient.Diff
