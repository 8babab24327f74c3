import Mathlib.Data.List.Forall2

namespace AngularClient

namespace Except

variable {ε δ α β : Type}

@[simp] theorem ok_bind (a : α) (f : α → Except ε β) : (.ok a >>= f) = f a := rfl

@[simp] theorem error_bind (e : ε) (f : α → Except ε β) : (.error e >>= f) = .error e := rfl

@[simp] theorem mapError_ok (f : ε → δ) (a : α) : (Except.ok a).mapError f = .ok a := rfl

@[simp] theorem mapError_error (f : ε → δ) (e : ε) :
    (Except.error e : Except ε α).mapError f = .error (f e) := rfl

@[simp] theorem bind_eq_ok_iff {e : Except ε α} {f : α → Except ε β} {b : β} :
    (e >>= f) = .ok b ↔ ∃ a, e = .ok a ∧ f a = .ok b := by
  cases e with
  | error e =>
    constructor
    · intro h
      cases h
    · rintro ⟨a, h, -⟩
      cases h
  | ok a =>
    constructor
    · intro h
      exact ⟨a, rfl, h⟩
    · rintro ⟨a', h, hf⟩
      cases h
      exact hf

@[simp] theorem mapError_eq_ok_iff {e : Except ε α} {f : ε → δ} {a : α} :
    e.mapError f = .ok a ↔ e = .ok a := by
  cases e with
  | error e =>
    constructor
    · intro h
      cases h
    · intro h
      cases h
  | ok a' =>
    constructor
    · intro h
      cases h
      rfl
    · intro h
      cases h
      rfl

theorem mapM_eq_ok_iff {f : α → Except ε β} {l : List α} {l' : List β} :
    l.mapM f = .ok l' ↔ List.Forall₂ (fun a b => f a = .ok b) l l' := by
  induction l generalizing l' with
  | nil =>
    rw [List.mapM_nil, List.forall₂_nil_left_iff]
    constructor
    · intro h
      cases h
      rfl
    · rintro rfl
      rfl
  | cons a l ih =>
    rw [List.mapM_cons, List.forall₂_cons_left_iff, bind_eq_ok_iff]
    constructor
    · rintro ⟨b, ha, h⟩
      obtain ⟨bs, hl, h⟩ := bind_eq_ok_iff.1 h
      cases h
      exact ⟨b, bs, ha, ih.1 hl, rfl⟩
    · rintro ⟨b, bs, ha, hl, rfl⟩
      exact ⟨b, ha, bind_eq_ok_iff.2 ⟨bs, ih.2 hl, rfl⟩⟩

def error? : Except ε α → Option ε
  | .ok _ => none
  | .error e => some e

@[simp] theorem error?_ok (a : α) : error? (.ok a : Except ε α) = none := rfl

@[simp] theorem error?_error (e : ε) : error? (.error e : Except ε α) = some e := rfl

@[simp] theorem error?_eq_none_iff {e : Except ε α} : error? e = none ↔ ∃ a, e = .ok a := by
  cases e <;> simp

theorem error?_bind {e : Except ε α} {f : α → Except ε β} {r : Option ε}
    (h : ∀ a, e = .ok a → error? (f a) = r) : error? (e >>= f) = (error? e).or r := by
  cases e with
  | error c => rfl
  | ok a => exact h a rfl

theorem error?_mapM {f : α → Except ε β} {l : List α} :
    error? (l.mapM f) = l.findSome? fun a => error? (f a) := by
  induction l with
  | nil => rfl
  | cons a l ih =>
    rw [List.mapM_cons, List.findSome?_cons]
    cases f a with
    | error c => rfl
    | ok b =>
      rw [← ih]
      cases l.mapM f <;> rfl

end Except

end AngularClient
