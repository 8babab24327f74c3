import AngularClient.Proofs.Template.Rendering

namespace AngularClient

inductive Shape
  | any
  | string
  | array (item : Shape)
  | object (members : List (String × Shape))

namespace Shape

mutual

def Fits : Shape → Json → Prop
  | .any, _ => True
  | .string, j => ∃ s, j = .string s
  | .array item, j => ∃ items, j = .array items ∧ ∀ x ∈ items, item.Fits x
  | .object members, j => FitMembers members j

def FitMembers : List (String × Shape) → Json → Prop
  | [], _ => True
  | (key, shape) :: rest, j => (∃ v, j.member? key = some v ∧ shape.Fits v) ∧ FitMembers rest j

end

def descend : List String → Shape → Option Shape
  | [], shape => some shape
  | key :: rest, .object members => (members.lookup key).bind (descend rest)
  | _ :: _, _ => none

theorem fits_of_lookup {members : List (String × Shape)} {j : Json} {key : String} {shape : Shape}
    (h : FitMembers members j) (hkey : members.lookup key = some shape) :
    ∃ v, j.member? key = some v ∧ shape.Fits v := by
  induction members with
  | nil => cases hkey
  | cons e rest ih =>
    obtain ⟨name, s⟩ := e
    rw [FitMembers] at h
    rw [List.lookup_cons] at hkey
    split at hkey
    · next heq =>
      obtain rfl := Option.some.inj hkey
      rw [eq_of_beq heq]
      exact h.1
    · exact ih h.2 hkey

theorem fits_descend {path : List String} {shape inner : Shape} {j : Json} (h : shape.Fits j)
    (hpath : shape.descend path = some inner) : ∃ v, j.descend path = some v ∧ inner.Fits v := by
  induction path generalizing shape j with
  | nil =>
    obtain rfl := Option.some.inj hpath
    exact ⟨j, rfl, h⟩
  | cons key rest ih =>
    cases shape with
    | object members =>
      obtain ⟨shape, hkey, hrest⟩ := Option.bind_eq_some_iff.1 hpath
      rw [Fits] at h
      obtain ⟨v, hv, hfits⟩ := fits_of_lookup h hkey
      obtain ⟨w, hw, hinner⟩ := ih hfits hrest
      refine ⟨w, ?_, hinner⟩
      rw [Json.descend, hv]
      exact hw
    | any => cases hpath
    | string => cases hpath
    | array item => cases hpath

end Shape

abbrev Signature := List (String × Shape)

namespace Signature

def find? (signature : Signature) : ValuePath → Option Shape
  | [] => none
  | root :: rest => (signature.lookup root).bind (Shape.descend rest)

def Fits (signature : Signature) (b : Bindings) : Prop :=
  List.Forall₂ (fun e f => f.1 = e.1 ∧ e.2.Fits f.2) signature b

variable {signature : Signature} {b : Bindings}

theorem Fits.find? (h : signature.Fits b) {path : ValuePath} {shape : Shape}
    (hpath : signature.find? path = some shape) : ∃ v, b.find? path = some v ∧ shape.Fits v := by
  cases path with
  | nil => cases hpath
  | cons root rest =>
    obtain ⟨outer, houter, hrest⟩ := Option.bind_eq_some_iff.1 hpath
    clear hpath
    induction h with
    | nil => cases houter
    | @cons e f signature b he _ ih =>
      obtain ⟨_, s⟩ := e
      obtain ⟨name, j⟩ := f
      obtain ⟨rfl, hfits⟩ := he
      rw [List.lookup_cons] at houter
      by_cases heq : root = name
      · subst heq
        rw [beq_self_eq_true] at houter
        obtain rfl := Option.some.inj houter
        obtain ⟨v, hv, hinner⟩ := Shape.fits_descend hfits hrest
        exact ⟨v, Bindings.find?_cons_self hv, hinner⟩
      · rw [beq_false_of_ne heq] at houter
        obtain ⟨v, hv, hinner⟩ := ih houter
        exact ⟨v, (Bindings.find?_cons_of_ne (Ne.symm heq)).trans hv, hinner⟩

end Signature

mutual

def Piece.fits (signature : Signature) : Piece → Bool
  | .text _ => true
  | .lines _ => true
  | .slot path filters =>
    match signature.find? path with
    | some .string => true
    | some _ => filters.isEmpty
    | none => false
  | .choice _ yes no => Template.fits signature yes && Template.fits signature no
  | .each name path body =>
    match signature.find? path with
    | some (.array item) => Template.fits ((name, item) :: signature) body
    | _ => false

def Template.fits (signature : Signature) : List Piece → Bool
  | [] => true
  | piece :: rest => Piece.fits signature piece && Template.fits signature rest

end

theorem Piece.exists_render_slot {signature : Signature} {b : Bindings} {path : ValuePath}
    {filters : List Filter} (h : (Piece.slot path filters).fits signature = true)
    (hb : signature.Fits b) : ∃ text, (Piece.slot path filters).render b = .ok text := by
  rw [Piece.fits] at h
  cases hpath : signature.find? path with
  | none => rw [hpath] at h; cases h
  | some shape =>
    rw [hpath] at h
    obtain ⟨v, hv, hfits⟩ := hb.find? hpath
    have hfill : ∃ text, Filter.fill filters v = some text := by
      cases shape with
      | string =>
        rw [Shape.Fits] at hfits
        obtain ⟨s, rfl⟩ := hfits
        unfold Filter.fill
        split
        · exact ⟨_, rfl⟩
        · exact ⟨_, rfl⟩
      | any => exact ⟨_, if_pos h⟩
      | array item => exact ⟨_, if_pos h⟩
      | object members => exact ⟨_, if_pos h⟩
    obtain ⟨text, htext⟩ := hfill
    refine ⟨text, ?_⟩
    rw [Piece.render, hv, Option.bind_some, htext]

mutual

theorem Piece.exists_render {signature : Signature} {b : Bindings} (hb : signature.Fits b) :
    ∀ p : Piece, p.fits signature = true → ∃ text, p.render b = .ok text
  | .text s, _ => ⟨_, Piece.render_text s⟩
  | .lines ls, _ => ⟨_, Piece.render_lines ls⟩
  | .slot _ _, h => Piece.exists_render_slot h hb
  | .choice c yes no, h => by
    rw [Piece.fits, Bool.and_eq_true] at h
    rw [Piece.render]
    split
    · exact Template.exists_render hb yes h.1
    · exact Template.exists_render hb no h.2
  | .each name path body, h => by
    rw [Piece.fits] at h
    split at h
    · next item hpath =>
      obtain ⟨v, hv, hfits⟩ := hb.find? hpath
      rw [Shape.Fits] at hfits
      obtain ⟨items, rfl, hitems⟩ := hfits
      have hbodies : ∀ x ∈ items, ∃ text, Template.render ((name, x) :: b) body = .ok text := by
        intro x hx
        exact Template.exists_render (.cons ⟨rfl, hitems x hx⟩ hb) body h
      obtain ⟨texts, htexts⟩ := exists_forall₂_of_forall hbodies
      exact ⟨texts.flatten, (Piece.render_each_eq_ok_iff hv).2 ⟨texts, htexts, rfl⟩⟩
    · cases h

theorem Template.exists_render {signature : Signature} {b : Bindings} (hb : signature.Fits b) :
    ∀ t : List Piece, Template.fits signature t = true → ∃ text, Template.render b t = .ok text
  | [], _ => ⟨[], by rw [Template.render]⟩
  | p :: t, h => by
    rw [Template.fits, Bool.and_eq_true] at h
    obtain ⟨first, hfirst⟩ := Piece.exists_render hb p h.1
    obtain ⟨rest, hrest⟩ := Template.exists_render hb t h.2
    exact ⟨first ++ rest, Template.render_cons_eq_ok_iff.2 ⟨first, rest, hfirst, hrest, rfl⟩⟩

end

end AngularClient
