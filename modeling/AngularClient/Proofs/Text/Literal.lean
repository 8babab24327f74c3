import AngularClient.Text.Quoting
import Mathlib.Data.Option.Basic
import Mathlib.Tactic.SplitIfs

namespace AngularClient.Text

namespace Literal

@[simp]
theorem readBody_quote (rest : List Char) : readBody ('\x27' :: rest) = some ([], rest) := by
  rw [readBody]
  · simp
  · intro a b c d rest h
    cases h
  · intro c rest h
    cases h

theorem readBody_raw {c : Char} (rest : List Char) (hb : c ≠ '\\') (hq : c ≠ '\x27')
    (he : endsLine c = false) :
    readBody (c :: rest) = (readBody rest).map fun (s, rest) => (c :: s, rest) := by
  rw [readBody]
  · rw [if_neg hq, he, decide_eq_false hb]
    cases readBody rest <;> rfl
  · intro a b c' d rest' h
    exact absurd h hb
  · intro c' rest' h
    exact absurd h hb

@[simp] theorem readBody_escape (c : Char) (rest : List Char) :
    readBody (escape c ++ rest) = (readBody rest).map fun (s, rest) => (c :: s, rest) := by
  have hex : hexNumber ['2', '0', '2', '8'] = some 0x2028 := by decide
  have hex' : hexNumber ['2', '0', '2', '9'] = some 0x2029 := by decide
  unfold escape
  split_ifs with hb hq hn hr ht hl hp
  · subst hb
    cases h : readBody rest <;> simp [readBody, h]
  · subst hq
    cases h : readBody rest <;> simp [readBody, h]
  · subst hn
    cases h : readBody rest <;> simp [readBody, h]
  · subst hr
    cases h : readBody rest <;> simp [readBody, h]
  · subst ht
    cases h : readBody rest <;> simp [readBody, h]
  · subst hl
    simp only [List.cons_append, List.nil_append]
    rw [readBody, hex]
    cases readBody rest <;> rfl
  · subst hp
    simp only [List.cons_append, List.nil_append]
    rw [readBody, hex']
    cases readBody rest <;> rfl
  · apply readBody_raw rest hb hq
    simp [endsLine, hn, hr, hl, hp]

@[simp] theorem readBody_write (s rest : List Char) :
    readBody (s.flatMap escape ++ '\x27' :: rest) = some (s, rest) := by
  induction s with
  | nil => exact readBody_quote rest
  | cons c s ih => rw [List.flatMap_cons, List.append_assoc, readBody_escape, ih]; rfl

@[simp] theorem read_write (s rest : List Char) : read (write s ++ rest) = some (s, rest) := by
  simp [read, write]

theorem endsLine_of_mem_escape (c : Char) : ∀ d ∈ escape c, endsLine d = false := by
  unfold escape
  split_ifs with hb hq hn hr ht hl hp
  · simp [endsLine]
  · simp [endsLine]
  · simp [endsLine]
  · simp [endsLine]
  · simp [endsLine]
  · simp [endsLine]
  · simp [endsLine]
  · intro d h
    rw [List.mem_singleton] at h
    subst h
    simp [endsLine, hn, hr, hl, hp]

theorem endsLine_of_mem_write {d : Char} {s : List Char} (h : d ∈ write s) :
    endsLine d = false := by
  rw [write, List.cons_append, List.mem_cons, List.mem_append, List.mem_singleton,
    List.mem_flatMap] at h
  rcases h with rfl | ⟨c, -, h⟩ | rfl
  · rfl
  · exact endsLine_of_mem_escape c d h
  · rfl

end Literal

def literalValue? (l : String) : Option String :=
  match Literal.read l.toList with
  | some (s, []) => some (String.ofList s)
  | _ => none

@[simp] theorem literalValue?_literal (s : String) : literalValue? (literal s) = some s := by
  have h := Literal.read_write s.toList []
  rw [List.append_nil] at h
  rw [literalValue?, literal, String.toList_ofList, h]
  simp

end AngularClient.Text
