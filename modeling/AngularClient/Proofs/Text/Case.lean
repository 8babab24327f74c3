import AngularClient.Text.Case
import Mathlib.Data.List.Basic

namespace AngularClient.Text

def Ascii (s : String) : Prop := ∀ c ∈ s.toList, c.toNat < 0x80

instance (s : String) : Decidable (Ascii s) :=
  List.decidableBAll (fun c : Char => c.toNat < 0x80) s.toList

variable {p s t : String}

theorem Ascii.append (hs : Ascii s) (ht : Ascii t) : Ascii (s ++ t) := by
  intro c hc
  rw [String.toList_append, List.mem_append] at hc
  exact hc.elim (hs c) (ht c)

theorem lowerAfter_of_ascii {before text : List Char} (h : ∀ c ∈ text, c.toNat < 0x80) :
    lowerAfter before text = text.map Char.toLower := by
  induction text generalizing before with
  | nil => rfl
  | cons c text ih =>
    rw [List.forall_mem_cons] at h
    have hsigma : c ≠ 'Σ' := by
      rintro rfl
      exact absurd h.1 (by decide)
    rw [lowerAfter, ih h.2, if_neg hsigma, lowerChar, if_pos h.1]
    rfl

@[simp] theorem toList_lower (h : Ascii s) : (lower s).toList = s.toList.map Char.toLower := by
  rw [lower, String.toList_ofList, lowerAfter_of_ascii h]

@[simp]
theorem lower_append (hs : Ascii s) (ht : Ascii t) : lower (s ++ t) = lower s ++ lower t := by
  rw [← String.toList_inj, toList_lower (hs.append ht), String.toList_append,
    String.toList_append, toList_lower hs, toList_lower ht, List.map_append]

theorem lower_append_inj (hp : Ascii p) (hs : Ascii s) (ht : Ascii t) :
    lower (p ++ s) = lower (p ++ t) ↔ lower s = lower t := by
  simp [hp, hs, ht]

theorem toUpper_lt : ∀ n < 0x80, (Char.ofNat n).toUpper.toNat < 0x80 := by
  decide

theorem Ascii.capitalize (h : Ascii s) : Ascii (capitalize s) := by
  unfold Text.capitalize
  split
  · intro c hc
    cases hc
  · next first rest heq =>
    rw [Ascii, heq, List.forall_mem_cons] at h
    intro c hc
    rw [String.toList_ofList, upperChar, if_pos h.1] at hc
    rcases List.mem_cons.1 hc with rfl | hc
    · rw [← Char.ofNat_toNat first]
      exact toUpper_lt _ h.1
    · exact h.2 c hc

variable {c : Char}

theorem isUpper_eq_false_of_lt (h : 'Z'.toNat < c.toNat) : c.isUpper = false := by
  apply decide_eq_false
  rintro ⟨-, hle⟩
  exact absurd (UInt32.le_iff_toNat_le.1 hle) (Nat.not_le_of_lt h)

theorem lt_lower_image : ∀ row ∈ CaseTable.lower, 'Z'.toNat < (row.1 : Int) + row.2.2.2 := by
  decide +kernel

theorem isUpper_ofNat {n : Nat} (h : 'Z'.toNat < n) : (Char.ofNat n).isUpper = false := by
  by_cases hvalid : n.isValidChar
  · rw [Char.ofNat, dif_pos hvalid]
    exact isUpper_eq_false_of_lt h
  · rw [Char.ofNat, dif_neg hvalid]
    rfl

theorem isUpper_shifted_lower (hc : 0x80 ≤ c.toNat) :
    (shifted CaseTable.lower c).isUpper = false := by
  have hz : 'Z'.toNat = 90 := rfl
  unfold shifted
  split
  · next first last stride offset hrow =>
    have hfirst := List.find?_some hrow
    have himage := lt_lower_image _ (List.mem_of_find?_eq_some hrow)
    simp only [Bool.and_eq_true, decide_eq_true_eq] at hfirst himage
    apply isUpper_ofNat
    omega
  · apply isUpper_eq_false_of_lt
    omega

theorem isUpper_toLower : ∀ n < 0x80, (Char.ofNat n).toLower.isUpper = false := by
  decide

theorem isUpper_of_mem_lowerChar {d : Char} (h : d ∈ lowerChar c) : d.isUpper = false := by
  unfold lowerChar at h
  split at h
  · next hc =>
    rw [List.mem_singleton] at h
    rw [h, ← Char.ofNat_toNat c]
    exact isUpper_toLower _ hc
  · next hc =>
    split at h
    · rcases List.mem_pair.1 h with rfl | rfl <;> decide
    · rw [List.mem_singleton] at h
      rw [h]
      exact isUpper_shifted_lower (Nat.le_of_not_lt hc)

theorem isUpper_of_mem_lower {s : String} (h : c ∈ (lower s).toList) : c.isUpper = false := by
  have hall : ∀ before text, ∀ c ∈ lowerAfter before text, c.isUpper = false := by
    intro before text
    induction text generalizing before with
    | nil => simp [lowerAfter]
    | cons d text ih =>
      intro c hc
      rw [lowerAfter, List.mem_append] at hc
      rcases hc with hc | hc
      · split at hc
        · rw [List.mem_singleton] at hc
          rw [hc]
          split <;> decide
        · exact isUpper_of_mem_lowerChar hc
      · exact ih _ c hc
  rw [lower, String.toList_ofList] at h
  exact hall _ _ c h

end AngularClient.Text
