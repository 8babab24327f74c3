import AngularClient.Text.Basic
import Mathlib.Data.Option.Basic
import Mathlib.Tactic.SplitIfs

/-! Identifiers of ES5 and paths of them.  A character of an identifier may be written by its code.
What characters outside of ASCII an identifier may have depends on the version of Unicode, so what
is said here is said of every choice of them. -/

namespace AngularClient

/-- The characters that an identifier may begin with, and those it may go on with. -/
structure IdentifierChars where
  begins : Char → Bool
  continues : Char → Bool
  begins_of_ascii : ∀ c : Char, c.toNat < 128 → begins c = (c.isAlpha || c == '$' || c == '_')
  continues_of_ascii : ∀ c : Char, c.toNat < 128 →
    continues c = (c.isAlphanum || c == '$' || c == '_')

namespace Text

def coded? (digits : List Char) : Option Char :=
  (hexNumber digits).bind fun code => if code.isValidChar then some (Char.ofNat code) else none

def unescape : List Char → Option (List Char)
  | [] => some []
  | '\\' :: 'u' :: a :: b :: c :: d :: rest =>
    (coded? [a, b, c, d]).bind fun e => (unescape rest).map (e :: ·)
  | c :: rest => if c = '\\' then none else (unescape rest).map (c :: ·)

end Text

namespace IdentifierChars

variable (ids : IdentifierChars)

def spells : List Char → Bool
  | [] => false
  | c :: rest => ids.begins c && rest.all ids.continues

def isName (s : List Char) : Bool := (Text.unescape s).any ids.spells

def isPath (s : String) : Bool := (s.toList.splitOn '.').all ids.isName

def ascii : IdentifierChars where
  begins c := c.isAlpha || c == '$' || c == '_'
  continues c := c.isAlphanum || c == '$' || c == '_'
  begins_of_ascii _ _ := rfl
  continues_of_ascii _ _ := rfl

end IdentifierChars

namespace Text

variable {c : Char} {s t : List Char}

theorem toNat_lt_of_isAlpha (h : c.isAlpha = true) : c.toNat < 128 := by
  rcases (Bool.or_eq_true _ _).mp h with h | h
  · obtain ⟨-, hle⟩ := of_decide_eq_true h
    exact Nat.lt_of_le_of_lt (UInt32.le_iff_toNat_le.1 hle) (by decide)
  · have hle := of_decide_eq_true ((Bool.and_eq_true _ _).mp h).2
    exact Nat.lt_of_le_of_lt (UInt32.le_iff_toNat_le.1 hle) (by decide)

theorem coded?_eq_none {digits : List Char} (h : c ∈ digits) (hc : hexValue c = none) :
    coded? digits = none := by
  have hfold : ∀ n, digits.foldlM (fun n c => do return n * 16 + (← hexValue c)) n = none := by
    induction digits with
    | nil => cases h
    | cons d digits ih =>
      intro n
      rw [List.foldlM_cons]
      rcases List.mem_cons.1 h with rfl | h
      · rw [hc]
        rfl
      · cases hexValue d with
        | none => rfl
        | some k => exact ih h _
  rw [coded?, hexNumber, hfold]
  rfl

@[simp] theorem unescape_cons (h : c ≠ '\\') (s : List Char) :
    unescape (c :: s) = (unescape s).map (c :: ·) := by
  rw [unescape, if_neg h]
  intro a b c' d rest hc _
  exact h hc

@[simp] theorem unescape_of_not_mem (h : '\\' ∉ s) : unescape s = some s := by
  induction s with
  | nil => rw [unescape]
  | cons c s ih =>
    rw [List.mem_cons, not_or] at h
    rw [unescape_cons (Ne.symm h.1), ih h.2, Option.map_some]

theorem unescape_backslash (h : ∀ a b c d rest, s = 'u' :: a :: b :: c :: d :: rest →
    coded? [a, b, c, d] = none) : unescape ('\\' :: s) = none := by
  unfold unescape
  split
  · next heq => cases heq
  · next a b c d rest heq =>
    rw [h a b c d rest (List.cons.inj heq).2]
    rfl
  · next heq =>
    cases heq
    rw [if_pos rfl]

theorem unescape_append_cons (hu : c ≠ 'u') (hhex : hexValue c = none) (s t : List Char) :
    unescape (s ++ c :: t) =
      (unescape s).bind fun s' => (unescape (c :: t)).map fun t' => s' ++ t' := by
  fun_induction unescape s with
  | case1 => simp
  | case2 a b c' d rest ih =>
    rw [List.cons_append, List.cons_append, List.cons_append, List.cons_append, List.cons_append,
      List.cons_append, unescape, ih]
    cases coded? [a, b, c', d] with
    | none => rfl
    | some e => cases unescape rest <;> cases unescape (c :: t) <;> rfl
  | case3 s hs =>
    rw [List.cons_append, Option.bind_none]
    apply unescape_backslash
    intro a b c' d rest heq
    -- an escape that began before the character would reach over it
    have hsplit : s ++ c :: t = ['u', a, b, c', d] ++ rest := heq
    obtain ⟨x, hescape, hx⟩ | ⟨x, rfl, -⟩ := List.append_eq_append_iff.1 hsplit
    · cases x with
      | nil =>
        rw [List.append_nil] at hescape
        exact (hs a b c' d [] rfl hescape.symm).elim
      | cons e x =>
        obtain ⟨rfl, -⟩ := List.cons.inj hx
        have hmem : c ∈ ['u', a, b, c', d] := hescape ▸ List.mem_append_right s List.mem_cons_self
        exact coded?_eq_none ((List.mem_cons.1 hmem).resolve_left hu) hhex
    · exact (hs a b c' d x rfl rfl).elim
  | case4 c' s hs hc ih =>
    rw [List.cons_append, unescape_cons hc, ih]
    cases unescape s <;> cases unescape (c :: t) <;> rfl

end Text

namespace IdentifierChars

variable (ids : IdentifierChars)

@[simp] theorem isName_of_not_mem {s : List Char} (h : '\\' ∉ s) : ids.isName s = ids.spells s := by
  rw [isName, Text.unescape_of_not_mem h, Option.any_some]

@[simp]
theorem continues_of_isAlpha {c : Char} (h : c.isAlpha = true) : ids.continues c = true := by
  rw [ids.continues_of_ascii c (Text.toNat_lt_of_isAlpha h), Char.isAlphanum, h]
  rfl

theorem spells_of_isAlpha {c : Char} {s : List Char} (h : (c :: s).all Char.isAlpha = true) :
    ids.spells (c :: s) = true := by
  rw [List.all_cons, Bool.and_eq_true, List.all_eq_true] at h
  have hs : s.all ids.continues = true :=
    List.all_eq_true.2 fun d hd => ids.continues_of_isAlpha (h.2 d hd)
  rw [spells, ids.begins_of_ascii c (Text.toNat_lt_of_isAlpha h.1), h.1, hs]
  rfl

theorem spells_insert {s : List Char} (hne : s ≠ []) (t : List Char) :
    ids.spells (s ++ ("Many".toList ++ t)) = ids.spells (s ++ t) := by
  have hletters : "Many".toList.all Char.isAlpha = true := by decide
  have hmany : "Many".toList.all ids.continues = true :=
    List.all_eq_true.2 fun c hc => ids.continues_of_isAlpha (List.all_eq_true.1 hletters c hc)
  cases s with
  | nil => exact absurd rfl hne
  | cons c s => simp only [List.cons_append, spells, List.all_append, hmany, Bool.true_and]

theorem isName_insert (before after : List Char) :
    ids.isName (before ++ ("createMany".toList ++ after)) =
      ids.isName (before ++ ("create".toList ++ after)) := by
  have hmany : before ++ ("createMany".toList ++ after) =
      (before ++ "crea".toList) ++ 't' :: ("eMany".toList ++ after) := by simp
  have hone : before ++ ("create".toList ++ after) =
      (before ++ "crea".toList) ++ 't' :: ('e' :: after) := by simp
  have hread : Text.unescape ('t' :: ("eMany".toList ++ after)) =
      (Text.unescape after).map fun t => "te".toList ++ ("Many".toList ++ t) := by
    cases h : Text.unescape after <;> simp [h]
  have hread' : Text.unescape ('t' :: 'e' :: after) =
      (Text.unescape after).map fun t => "te".toList ++ t := by
    cases h : Text.unescape after <;> simp [h]
  rw [hmany, hone, isName, isName, Text.unescape_append_cons (by decide) (by decide),
    Text.unescape_append_cons (by decide) (by decide), hread, hread']
  cases Text.unescape (before ++ "crea".toList) with
  | none => rfl
  | some s =>
    cases Text.unescape after with
    | none => rfl
    | some t =>
      have hne : s ++ "te".toList ≠ [] := List.append_ne_nil_of_right_ne_nil s (by decide)
      have hspells := ids.spells_insert hne t
      rw [List.append_assoc, List.append_assoc] at hspells
      exact hspells

end IdentifierChars

end AngularClient
