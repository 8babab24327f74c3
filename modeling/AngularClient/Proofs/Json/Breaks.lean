import AngularClient.Model.Described
import AngularClient.Proofs.Text.Literal

/-! What ends a line of a script, in JSON text.  JSON escapes controls, and so line feeds and carriage
returns, but it writes line and paragraph separators as they are: they stand in the text of a value
just if they stand in a string of it. -/

namespace AngularClient

namespace Text

/-- The characters that end a line of a script and that JSON takes for nothing special. -/
def separates (c : Char) : Bool := c == '\u2028' || c == '\u2029'

def Unbroken (s : String) : Prop := ∀ c ∈ s.toList, Literal.endsLine c = false

def Unseparated (s : String) : Prop := ∀ c ∈ s.toList, separates c = false

theorem Literal.endsLine_iff {c : Char} :
    endsLine c = true ↔ c = '\n' ∨ c = '\r' ∨ separates c = true := by
  simp [endsLine, separates, or_assoc]

@[simp]
theorem endsLine_of_separates {c : Char} (h : separates c = true) : Literal.endsLine c = true :=
  Literal.endsLine_iff.2 (.inr (.inr h))

end Text

open Text (separates)
open Text.Literal (endsLine)

section Number

variable {c : Char} {format : DecimalFormat}

theorem endsLine_of_isDigit (h : c.isDigit = true) : endsLine c = false := by
  rw [← Bool.not_eq_true]
  intro hc
  simp only [endsLine, Bool.or_eq_true, beq_iff_eq] at hc
  rcases hc with ((rfl | rfl) | rfl) | rfl <;> exact absurd h (by decide)

theorem endsLine_of_mem_toDigits {n : Nat} (h : c ∈ Nat.toDigits 10 n) : endsLine c = false :=
  endsLine_of_isDigit (Nat.isDigit_of_mem_toDigits (by decide) (by decide) h)

theorem endsLine_of_mem_zeros {n : Nat} (h : c ∈ DecimalFormat.zeros n) : endsLine c = false := by
  rw [List.eq_of_mem_replicate h]
  rfl

theorem endsLine_of_mem_layOut {n : Nat} {g : Int} (h : c ∈ format.layOut n g) :
    endsLine c = false := by
  unfold DecimalFormat.layOut at h
  simp only at h
  split at h
  · rw [List.mem_append, List.mem_append] at h
    rcases h with (h | h) | h
    · exact endsLine_of_mem_toDigits h
    · exact endsLine_of_mem_zeros h
    · split at h
      · simp only [List.mem_cons, List.not_mem_nil, or_false] at h
        rcases h with rfl | rfl <;> rfl
      · cases h
  · split at h
    · rw [List.mem_append, List.mem_cons] at h
      rcases h with h | rfl | h
      · exact endsLine_of_mem_toDigits (List.mem_of_mem_take h)
      · rfl
      · exact endsLine_of_mem_toDigits (List.mem_of_mem_drop h)
    · rw [List.mem_append, List.mem_cons, List.mem_cons] at h
      rcases h with (rfl | rfl | h) | h
      · rfl
      · rfl
      · exact endsLine_of_mem_zeros h
      · exact endsLine_of_mem_toDigits h

theorem endsLine_of_mem_scientific {n : Nat} {g : Int} (h : c ∈ DecimalFormat.scientific n g) :
    endsLine c = false := by
  unfold DecimalFormat.scientific at h
  simp only [List.mem_append, List.mem_cons] at h
  rcases h with (h | h) | rfl | rfl | h
  · exact endsLine_of_mem_toDigits (List.mem_of_mem_take h)
  · split at h
    · rcases List.mem_cons.1 h with rfl | h
      · rfl
      · exact endsLine_of_mem_toDigits (List.mem_of_mem_drop h)
    · cases h
  · rfl
  · split <;> rfl
  · exact endsLine_of_mem_toDigits h

theorem endsLine_of_mem_writeNumber {n : Number} (h : c ∈ n.write format) :
    endsLine c = false := by
  have hsign : ∀ p : Prop, ∀ [Decidable p], c ∈ (if p then ['-'] else []) → endsLine c = false := by
    intro p _ hc
    split at hc
    · rw [List.mem_singleton.1 hc]
      rfl
    · cases hc
  cases n with
  | int n =>
    rw [Number.write, List.mem_append] at h
    rcases h with h | h
    · exact hsign _ h
    · exact endsLine_of_mem_toDigits h
  | double x =>
    have hdigits : ∀ positional : Bool, ∀ n g, c ∈ (if positional then format.layOut n g
        else DecimalFormat.scientific n g) → endsLine c = false := by
      intro positional n g hc
      split at hc
      · exact endsLine_of_mem_layOut hc
      · exact endsLine_of_mem_scientific hc
    rw [Number.write, DecimalFormat.write] at h
    simp only [List.mem_append] at h
    rcases h with h | h
    · exact hsign _ h
    · exact hdigits _ _ _ h

end Number

namespace Json

mutual

def texts : Json → List String
  | .string s => [s]
  | .array items => itemTexts items
  | .object members => memberTexts members
  | _ => []

def itemTexts : List Json → List String
  | [] => []
  | j :: rest => texts j ++ itemTexts rest

def memberTexts : List (String × Json) → List String
  | [] => []
  | (key, j) :: rest => key :: (texts j ++ memberTexts rest)

end

@[simp] theorem mem_itemTexts_cons {s : String} {j : Json} {rest : List Json} :
    s ∈ itemTexts (j :: rest) ↔ s ∈ j.texts ∨ s ∈ itemTexts rest := by
  rw [itemTexts, List.mem_append]

@[simp] theorem mem_memberTexts_cons {s key : String} {j : Json} {rest : List (String × Json)} :
    s ∈ memberTexts ((key, j) :: rest) ↔ s = key ∨ s ∈ j.texts ∨ s ∈ memberTexts rest := by
  rw [memberTexts, List.mem_cons, List.mem_append]

variable {c d : Char}

@[simp] theorem escape_of_separates (h : separates c = true) : escape c = [c] := by
  simp only [separates, Bool.or_eq_true, beq_iff_eq] at h
  rcases h with rfl | rfl <;> decide

theorem not_mem_of_whole {l : List Char} (hl : ∀ x ∈ l, endsLine x = false)
    (hd : endsLine d = true) : d ∉ l := by
  intro hmem
  rw [hl d hmem] at hd
  cases hd

theorem endsLine_hex : ∀ n < 16, endsLine (Nat.digitChar n) = false := by decide

theorem eq_of_mem_escape (hd : endsLine d = true) (h : d ∈ escape c) :
    d = c ∧ separates c = true := by
  have hraw : ∀ l : List Char, (∀ x ∈ l, endsLine x = false) → d ∉ l :=
    fun l hl => not_mem_of_whole hl hd
  unfold escape at h
  split at h
  · next hc => subst hc; exact absurd h (hraw _ (by simp [endsLine]))
  split at h
  · next hc => subst hc; exact absurd h (hraw _ (by simp [endsLine]))
  split at h
  · exact absurd h (hraw _ (by simp [endsLine]))
  split at h
  · exact absurd h (hraw _ (by simp [endsLine]))
  split at h
  · exact absurd h (hraw _ (by simp [endsLine]))
  split at h
  · exact absurd h (hraw _ (by simp [endsLine]))
  split at h
  · exact absurd h (hraw _ (by simp [endsLine]))
  split at h
  · next hcontrol =>
    refine absurd h (hraw _ ?_)
    simp only [List.forall_mem_cons, List.not_mem_nil, false_imp_iff, implies_true, and_true]
    exact ⟨rfl, rfl, rfl, rfl, endsLine_hex _ (by omega), endsLine_hex _ (by omega)⟩
  · next hn hr _ _ =>
    obtain rfl := List.mem_singleton.1 h
    rcases Text.Literal.endsLine_iff.1 hd with rfl | rfl | hsep
    · contradiction
    · contradiction
    · exact ⟨rfl, hsep⟩

theorem mem_writeString_iff (hd : endsLine d = true) {s : String} :
    d ∈ writeString s ↔ separates d = true ∧ d ∈ s.toList := by
  have hquote : d ≠ '\x22' := by
    rintro rfl
    cases hd
  simp only [writeString, List.mem_append, List.mem_cons, hquote, false_or, List.not_mem_nil,
    or_false, List.mem_flatMap]
  constructor
  · rintro ⟨c, hc, h⟩
    obtain ⟨rfl, hsep⟩ := eq_of_mem_escape hd h
    exact ⟨hsep, hc⟩
  · rintro ⟨hsep, hc⟩
    exact ⟨d, hc, by rw [escape_of_separates hsep]; exact List.mem_singleton_self d⟩

mutual

theorem mem_write_iff (hd : endsLine d = true) : ∀ j : Json,
    d ∈ j.write ↔ separates d = true ∧ ∃ s ∈ j.texts, d ∈ s.toList
  | .null => by
    have h := not_mem_of_whole (l := ['n', 'u', 'l', 'l']) (by simp [endsLine]) hd
    simp only [write, h, texts, List.not_mem_nil, false_and, exists_false, and_false]
  | .bool true => by
    have h := not_mem_of_whole (l := ['t', 'r', 'u', 'e']) (by simp [endsLine]) hd
    simp only [write, h, texts, List.not_mem_nil, false_and, exists_false, and_false]
  | .bool false => by
    have h := not_mem_of_whole (l := ['f', 'a', 'l', 's', 'e']) (by simp [endsLine]) hd
    simp only [write, h, texts, List.not_mem_nil, false_and, exists_false, and_false]
  | .number n => by
    have h := not_mem_of_whole (l := n.write .json) (fun _ => endsLine_of_mem_writeNumber) hd
    simp only [write, h, texts, List.not_mem_nil, false_and, exists_false, and_false]
  | .string s => by
    rw [write, mem_writeString_iff hd, texts]
    simp
  | .array items => by
    have ho := not_mem_of_whole (l := ['[']) (by simp [endsLine]) hd
    have hc := not_mem_of_whole (l := [']']) (by simp [endsLine]) hd
    rw [List.mem_singleton] at ho
    rw [write, List.cons_append, List.mem_cons, List.mem_append, mem_writeItems_iff hd items, texts]
    simp only [ho, hc, false_or, or_false]
  | .object members => by
    have ho := not_mem_of_whole (l := ['\x7b']) (by simp [endsLine]) hd
    have hc := not_mem_of_whole (l := ['\x7d']) (by simp [endsLine]) hd
    rw [List.mem_singleton] at ho
    rw [write, List.cons_append, List.mem_cons, List.mem_append, mem_writeMembers_iff hd members,
      texts]
    simp only [ho, hc, false_or, or_false]

theorem mem_writeItems_iff (hd : endsLine d = true) : ∀ items : List Json,
    d ∈ writeItems items ↔ separates d = true ∧ ∃ s ∈ itemTexts items, d ∈ s.toList
  | [] => by simp [writeItems, itemTexts]
  | [j] => by rw [writeItems, mem_write_iff hd j, itemTexts, itemTexts, List.append_nil]
  | j :: j' :: rest => by
    have hcomma := not_mem_of_whole (l := [',']) (by simp [endsLine]) hd
    rw [List.mem_singleton] at hcomma
    rw [writeItems, List.mem_append, List.mem_cons, mem_write_iff hd j,
      mem_writeItems_iff hd (j' :: rest)]
    · simp only [hcomma, false_or, @mem_itemTexts_cons _ j (j' :: rest), or_and_right, exists_or,
        and_or_left]
    · exact List.cons_ne_nil _ _

theorem mem_writeMembers_iff (hd : endsLine d = true) : ∀ members : List (String × Json),
    d ∈ writeMembers members ↔ separates d = true ∧ ∃ s ∈ memberTexts members, d ∈ s.toList
  | [] => by simp [writeMembers, memberTexts]
  | [(key, j)] => by
    have hcolon := not_mem_of_whole (l := [':']) (by simp [endsLine]) hd
    rw [List.mem_singleton] at hcolon
    rw [writeMembers, List.mem_append, List.mem_cons, mem_writeString_iff hd, mem_write_iff hd j,
      memberTexts, memberTexts, List.append_nil]
    simp only [hcolon, false_or, List.mem_cons, exists_eq_or_imp, and_or_left]
  | (key, j) :: e :: rest => by
    have hcolon := not_mem_of_whole (l := [':']) (by simp [endsLine]) hd
    have hcomma := not_mem_of_whole (l := [',']) (by simp [endsLine]) hd
    rw [List.mem_singleton] at hcolon hcomma
    rw [writeMembers, List.mem_append, List.mem_cons, List.mem_append, List.mem_cons,
      mem_writeString_iff hd, mem_write_iff hd j, mem_writeMembers_iff hd (e :: rest)]
    · simp only [hcolon, hcomma, false_or, @mem_memberTexts_cons _ key j (e :: rest), or_and_right,
        exists_or, exists_eq_left, and_or_left, or_assoc]
    · exact List.cons_ne_nil _ _

end

end Json

namespace Schema

def texts (s : Schema) : List String := s.name :: Json.memberTexts s.properties

theorem mem_text_iff {d : Char} (hd : endsLine d = true) (s : Schema) :
    d ∈ s.text.toList ↔ separates d = true ∧ ∃ t ∈ s.texts, d ∈ t.toList := by
  have hopen : d ∉ "\x7b\"name\":".toList := Json.not_mem_of_whole (by simp [endsLine]) hd
  have hbetween : d ∉ ",\"properties\":".toList := Json.not_mem_of_whole (by simp [endsLine]) hd
  have hclose : d ≠ '\x7d' := by
    rintro rfl
    cases hd
  unfold text
  generalize "\x7b\"name\":".toList = opening, ",\"properties\":".toList = between
    at hopen hbetween ⊢
  rw [String.toList_ofList, List.mem_append, List.mem_append, List.mem_append, List.mem_append,
    List.mem_singleton, Json.mem_writeString_iff hd, Json.mem_write_iff hd, Json.texts]
  simp only [hopen, hbetween, hclose, false_or, or_false, texts, List.mem_cons, exists_eq_or_imp,
    and_or_left]

theorem unbroken_text_iff (s : Schema) :
    Text.Unbroken s.text ↔ ∀ t ∈ s.texts, Text.Unseparated t := by
  constructor
  · intro h t ht c hc
    rw [← Bool.not_eq_true]
    intro hsep
    have hend := Text.endsLine_of_separates hsep
    have hmem := (mem_text_iff hend s).2 ⟨hsep, t, ht, hc⟩
    rw [h c hmem] at hend
    cases hend
  · intro h c hc
    rw [← Bool.not_eq_true]
    intro hend
    obtain ⟨hsep, t, ht, hmem⟩ := (mem_text_iff hend s).1 hc
    rw [h t ht c hmem] at hsep
    cases hsep

end Schema

end AngularClient
