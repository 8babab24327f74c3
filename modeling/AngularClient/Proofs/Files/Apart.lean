import AngularClient.Proofs.Files.Store
import Mathlib.Data.Option.Basic

namespace AngularClient.FileStore

variable {store made : FileStore} {path other : String} {route : Route} {place target : Place}
  {places : List Place} {ready : Bool}

/-- Two paths whose ways meet only in directories that are there. -/
def Apart (store : FileStore) (path other : String) : Prop :=
  ∀ route ∈ Route.ofPath? path, ∀ way ∈ Route.ofPath? other,
    ∀ place ∈ route.target :: route.through, place ∈ way.target :: way.through →
      store.isDirectory place = true

instance (store : FileStore) (path other : String) : Decidable (store.Apart path other) :=
  inferInstanceAs (Decidable (∀ route ∈ Route.ofPath? path, ∀ way ∈ Route.ofPath? other, _))

theorem at?_makeDirectories (hplaces : ∀ place ∈ places, place.Plain) (hplain : target.Plain)
    (htarget : target ∈ places → store.isDirectory target = true)
    (h : store.makeDirectories places = (made, ready)) : made.at? target = store.at? target := by
  induction places generalizing store with
  | nil =>
    cases h
    rfl
  | cons place rest ih =>
    rw [List.forall_mem_cons] at hplaces
    rw [makeDirectories] at h
    cases hat : store.at? place with
    | none =>
      rw [hat] at h
      simp only at h
      split at h
      · have hkept : at? (Dictionary.insert place.spell .directory store) target =
            store.at? target := by
          rw [at?_insert, if_neg]
          rintro ⟨habove, hspell⟩
          obtain rfl := Place.eq_of_spell_eq hplain hplaces.1 (Place.ne_nil_of_isAbove habove)
            (Place.ne_nil_of_isAbove (isAbove_of_at?_eq_none hat)) hspell
          rw [isDirectory_iff, hat] at htarget
          cases htarget List.mem_cons_self
        refine (ih hplaces.2 ?_ h).trans hkept
        intro hmem
        rw [isDirectory_iff, hkept, ← isDirectory_iff]
        exact htarget (List.mem_cons_of_mem _ hmem)
      · cases h
        rfl
    | some entry =>
      rw [hat] at h
      cases entry with
      | file content =>
        cases h
        rfl
      | directory => exact ih hplaces.2 (fun hmem => htarget (List.mem_cons_of_mem _ hmem)) h

theorem at?_write (hleads : Route.ofPath? path = some route) (hplain : target.Plain)
    (htarget : target ∈ route.target :: route.through → store.isDirectory target = true)
    (content : ByteArray) : (store.write path content).1.at? target = store.at? target := by
  obtain ⟨hend, hthrough⟩ := Route.plain_of_ofPath? hleads
  have hway : (store.makeWay route).1.at? target = store.at? target := by
    unfold makeWay
    split
    · exact at?_makeDirectories hthrough hplain
        (fun hmem => htarget (List.mem_cons_of_mem _ hmem)) rfl
    · rfl
  simp only [write, hleads]
  split
  · next hcond =>
    simp only [Bool.and_eq_true, Bool.not_eq_true'] at hcond
    rw [at?_insert, if_neg, hway]
    rintro ⟨habove, hspell⟩
    -- no directory stands where the file is put
    obtain rfl := Place.eq_of_spell_eq hplain hend (Place.ne_nil_of_isAbove habove)
      (Place.ne_nil_of_isAbove (isAbove_of_not_isDirectory hcond.2)) hspell
    have hdir := htarget List.mem_cons_self
    rw [isDirectory_iff, ← hway, ← isDirectory_iff, hcond.2] at hdir
    cases hdir
  · exact hway

theorem lookup?_write (h : store.Apart path other) (content : ByteArray) :
    (store.write path content).1.lookup? other = store.lookup? other := by
  cases hleads : Route.ofPath? path with
  | none => rw [write, hleads]
  | some route =>
    cases hother : Route.ofPath? other with
    | none => simp only [lookup?, hother]; rfl
    | some way =>
      obtain ⟨hend, hthrough⟩ := Route.plain_of_ofPath? hother
      have hat : ∀ place ∈ way.target :: way.through,
          (store.write path content).1.at? place = store.at? place := by
        intro place hplace
        refine at?_write hleads ?_ (fun hmem => h route hleads way hother place hmem hplace) content
        rcases List.mem_cons.1 hplace with rfl | hplace
        · exact hend
        · exact hthrough place hplace
      rw [List.forall_mem_cons] at hat
      apply Option.ext
      intro entry
      rw [lookup?_eq_some_iff hother, lookup?_eq_some_iff hother, hat.1]
      have hdirs : (∀ place ∈ way.through, isDirectory (store.write path content).1 place = true) ↔
          ∀ place ∈ way.through, store.isDirectory place = true :=
        forall₂_congr fun place hplace => by rw [isDirectory, isDirectory, hat.2 place hplace]
      rw [hdirs]

theorem readText?_congr (h : made.lookup? path = store.lookup? path) :
    made.readText? path = store.readText? path := by
  rw [readText?, readText?, read?, read?, h]

end AngularClient.FileStore
