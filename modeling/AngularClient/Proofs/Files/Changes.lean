import AngularClient.Proofs.Files.Store

namespace AngularClient

def FileEntry.content? : FileEntry → Option ByteArray
  | .file content => some content
  | .directory => none

namespace FileStore

def content? (store : FileStore) (key : String) : Option ByteArray :=
  (Dictionary.find? store key).bind (·.content?)

def Changes (before after : FileStore) (key : String) : Prop :=
  after.content? key ≠ before.content? key

def SameFiles (before after : FileStore) : Prop := ∀ key, ¬ before.Changes after key

variable {store made : FileStore} {path key : String} {route : Route} {places : List Place}

theorem SameFiles.refl (store : FileStore) : store.SameFiles store := fun _ h => h rfl

@[grind =] theorem content?_insert_file (store : FileStore) (key k : String) (content : ByteArray) :
    content? (Dictionary.insert key (.file content) store) k =
      if k = key then some content else store.content? k := by
  rw [content?, Dictionary.find?_insert]
  split <;> rfl

theorem content?_insert_directory {place : Place} (h : store.at? place = none) (key : String) :
    content? (Dictionary.insert place.spell .directory store) key = store.content? key := by
  have hfree : Dictionary.find? store place.spell = none := by
    rwa [at?, isAbove_of_at?_eq_none h] at h
  rw [content?, content?, Dictionary.find?_insert]
  split
  · next heq => rw [heq, hfree]; rfl
  · rfl

@[simp] theorem content?_makeDirectories (store : FileStore) (places : List Place) (key : String) :
    (store.makeDirectories places).1.content? key = store.content? key := by
  induction places generalizing store with
  | nil => rfl
  | cons place rest ih =>
    rw [makeDirectories]
    cases hat : store.at? place with
    | none =>
      simp only
      split
      · exact (ih _).trans (content?_insert_directory hat key)
      · rfl
    | some entry =>
      cases entry with
      | file content => rfl
      | directory => exact ih store

@[simp] theorem content?_makeWay (store : FileStore) (route : Route) (key : String) :
    (store.makeWay route).1.content? key = store.content? key := by
  unfold makeWay
  split
  · exact content?_makeDirectories store route.through key
  · rfl

theorem write_cases (store : FileStore) (path : String) (content : ByteArray) :
    (∃ after, store.write path content = (after, false) ∧ store.SameFiles after) ∨
      ∃ route after, Route.ofPath? path = some route ∧ store.write path content = (after, true) ∧
        after.content? route.target.spell = some content ∧
          ∀ key, store.Changes after key → key = route.target.spell := by
  unfold write
  cases hleads : Route.ofPath? path with
  | none => exact .inl ⟨store, rfl, .refl store⟩
  | some route =>
    simp only
    split
    · refine .inr ⟨route, _, rfl, rfl, ?_, ?_⟩
      · grind
      · intro key hkey
        rw [Changes, content?_insert_file, content?_makeWay] at hkey
        grind
    · exact .inl ⟨_, rfl, fun key hkey => hkey (content?_makeWay store route key)⟩

end FileStore

end AngularClient
