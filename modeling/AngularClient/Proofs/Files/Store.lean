import AngularClient.Files.Store
import AngularClient.Proofs.Files.Path

namespace AngularClient

@[simp] theorem Dictionary.insert_insert {α : Type u} (d : Dictionary α) (key : String) (v w : α) :
    (d.insert key v).insert key w = d.insert key w := by
  induction d with
  | nil => simp [insert]
  | cons e rest ih =>
    obtain ⟨k, x⟩ := e
    simp only [insert]
    split
    · simp [insert]
    · next hlt =>
      split
      · simp [insert]
      · next hne => simp only [insert, if_neg hlt, if_neg hne, ih]

namespace FileStore

variable {store : FileStore} {path : String} {route : Route} {place target : Place}
  {places : List Place} {entry : FileEntry} {content more : ByteArray}

/-- A path that a file can be written to.  What it goes through is a directory, or nothing yet and
can become one. -/
structure Writable (store : FileStore) (path : String) (route : Route) : Prop where
  leads : Route.ofPath? path = some route
  allowed : Path.isAllowed path = true
  parentAllowed : Path.isAllowed route.parent = true
  nameable : route.target.isNameable = true
  entry : route.needsDirectory = false
  free : store.isDirectory route.target = false
  through : ∀ place ∈ route.through, store.isDirectory place = true ∨
    store.at? place = none ∧ place.isNameable = true ∧ place.spell ≠ route.target.spell

structure Ready (store : FileStore) (path : String) (route : Route) : Prop
    extends Writable store path route where
  made : ∀ place ∈ route.through, store.isDirectory place = true

def put (store : FileStore) (route : Route) (content : ByteArray) : FileStore :=
  Dictionary.insert route.target.spell (.file content) store

@[grind =]
theorem at?_insert (store : FileStore) (place : Place) (key : String) (entry : FileEntry) :
    at? (Dictionary.insert key entry store) place =
      if place.isAbove = false ∧ place.spell = key then some entry else store.at? place := by
  unfold at?
  cases place.isAbove <;> simp

@[simp]
theorem isDirectory_of_isAbove (h : place.isAbove = true) : store.isDirectory place = true := by
  simp [isDirectory, at?, h, FileEntry.isDirectory]

@[simp]
theorem isDirectory_iff : store.isDirectory place = true ↔ store.at? place = some .directory := by
  unfold isDirectory
  cases h : store.at? place with
  | none => simp
  | some entry => cases entry <;> simp [FileEntry.isDirectory]

theorem lookup?_eq_some_iff (h : Route.ofPath? path = some route) :
    store.lookup? path = some entry ↔ Path.isAllowed path = true ∧
      (∀ place ∈ route.through, store.isDirectory place = true) ∧
        store.at? route.target = some entry ∧
          (route.needsDirectory = true → entry.isDirectory = true) := by
  have hlookup : store.lookup? path =
      (guard (Path.isAllowed path && route.through.all store.isDirectory) : Option Unit).bind fun _ =>
        (store.at? route.target).bind fun entry =>
          if route.needsDirectory && !entry.isDirectory then none else some entry := by
    rw [lookup?, h]
    rfl
  rw [hlookup, ← and_assoc, ← List.all_eq_true, ← Bool.and_eq_true]
  cases Path.isAllowed path && route.through.all store.isDirectory with
  | false =>
    constructor
    · intro h
      cases h
    · rintro ⟨h, -⟩
      cases h
  | true =>
    have hguard : (guard (true = true) : Option Unit) = some () := rfl
    rw [hguard, Option.bind_some]
    cases store.at? route.target with
    | none => simp
    | some found =>
      cases route.needsDirectory with
      | false => simp
      | true => cases found <;> cases entry <;> simp [FileEntry.isDirectory]

theorem isAbove_of_not_isDirectory (h : store.isDirectory place = false) : place.isAbove = false := by
  rw [← Bool.not_eq_true]
  intro habove
  rw [isDirectory_of_isAbove habove] at h
  cases h

theorem spell_ne_of_isDirectory (h : store.isDirectory place = true) (habove : place.isAbove = false)
    (hfree : store.isDirectory target = false) : place.spell ≠ target.spell := by
  intro heq
  rw [isDirectory, at?, habove, heq] at h
  rw [isDirectory, at?, isAbove_of_not_isDirectory hfree] at hfree
  exact Bool.false_ne_true (hfree.symm.trans h)

@[simp] theorem isDirectory_insert (key : String) (h : store.isDirectory place = true) :
    isDirectory (Dictionary.insert key .directory store) place = true := by
  rw [isDirectory_iff] at h ⊢
  grind

@[grind →] theorem isAbove_of_at?_eq_none (h : store.at? place = none) : place.isAbove = false := by
  rw [← Bool.not_eq_true]
  intro habove
  simp [at?, habove] at h

@[simp] theorem isDirectory_insert_self (h : store.at? place = none) :
    isDirectory (Dictionary.insert place.spell .directory store) place = true := by
  rw [isDirectory_iff]
  grind

theorem makeDirectories_eq (hfree : store.isDirectory target = false)
    (h : ∀ place ∈ places, store.isDirectory place = true ∨
      store.at? place = none ∧ place.isNameable = true ∧ place.spell ≠ target.spell) :
    ∃ made : FileStore, store.makeDirectories places = (made, true) ∧
      made.isDirectory target = false ∧
        (∀ place, store.isDirectory place = true → made.isDirectory place = true) ∧
          ∀ place ∈ places, made.isDirectory place = true := by
  induction places generalizing store with
  | nil => exact ⟨store, rfl, hfree, fun _ h => h, by simp⟩
  | cons place rest ih =>
    rw [List.forall_mem_cons] at h
    obtain ⟨hplace, hrest⟩ := h
    rcases hplace with hplace | ⟨hnone, hname, hne⟩
    · obtain ⟨made, hmade, htarget, hkept, hdirs⟩ := ih hfree hrest
      refine ⟨made, ?_, htarget, hkept, List.forall_mem_cons.2 ⟨hkept place hplace, hdirs⟩⟩
      rw [makeDirectories, isDirectory_iff.1 hplace, hmade]
    · have hfree' : isDirectory (Dictionary.insert place.spell .directory store) target = false := by
        rw [isDirectory, at?_insert, if_neg (fun h => hne h.2.symm)]
        exact hfree
      have hrest' : ∀ q ∈ rest,
          isDirectory (Dictionary.insert place.spell .directory store) q = true ∨
            at? (Dictionary.insert place.spell .directory store) q = none ∧ q.isNameable = true ∧
              q.spell ≠ target.spell := by
        intro q hq
        rcases hrest q hq with hq | ⟨hq, hqname⟩
        · exact .inl (isDirectory_insert _ hq)
        · rw [isDirectory_iff]
          grind
      obtain ⟨made, hmade, htarget, hkept, hdirs⟩ := ih hfree' hrest'
      refine ⟨made, ?_, htarget, fun q hq => hkept q (isDirectory_insert _ hq),
        List.forall_mem_cons.2 ⟨hkept place (isDirectory_insert_self hnone), hdirs⟩⟩
      rw [makeDirectories, hnone]
      simp only [hname, if_true, hmade]

@[simp]
theorem makeDirectories_of_isDirectory (h : ∀ place ∈ places, store.isDirectory place = true) :
    store.makeDirectories places = (store, true) := by
  induction places with
  | nil => rfl
  | cons place rest ih =>
    rw [List.forall_mem_cons] at h
    rw [makeDirectories, isDirectory_iff.1 h.1]
    exact ih h.2

namespace Ready

variable (h : store.Ready path route)
include h

theorem makeWay : store.makeWay route = (store, true) := by
  rw [FileStore.makeWay, if_pos h.parentAllowed, makeDirectories_of_isDirectory h.made]

theorem write_eq (content : ByteArray) : store.write path content = (store.put route content, true) := by
  simp only [write, h.leads, h.makeWay, h.allowed, h.nameable, h.entry, h.free, Bool.not_false,
    Bool.and_self, if_true]
  rfl

theorem at?_put (content : ByteArray) :
    (store.put route content).at? route.target = some (.file content) := by
  rw [put, at?_insert, if_pos ⟨isAbove_of_not_isDirectory h.free, rfl⟩]

theorem put (content : ByteArray) : (store.put route content).Ready path route := by
  have hmade : ∀ place ∈ route.through, (store.put route content).isDirectory place = true := by
    intro place hplace
    have hdir := isDirectory_iff.1 (h.made place hplace)
    rw [isDirectory_iff, FileStore.put, at?_insert, if_neg, hdir]
    rintro ⟨habove, hspell⟩
    exact spell_ne_of_isDirectory (h.made place hplace) habove h.free hspell
  exact {
    leads := h.leads
    allowed := h.allowed
    parentAllowed := h.parentAllowed
    nameable := h.nameable
    entry := h.entry
    free := by rw [isDirectory, h.at?_put]; rfl
    through := fun place hplace => .inl (hmade place hplace)
    made := hmade }

theorem read?_put (content : ByteArray) : (store.put route content).read? path = some content := by
  have hlookup : (store.put route content).lookup? path = some (.file content) := by
    rw [lookup?_eq_some_iff h.leads]
    refine ⟨h.allowed, (h.put content).made, h.at?_put content, ?_⟩
    rw [h.entry]
    exact fun hneeds => absurd hneeds Bool.false_ne_true
  rw [read?, hlookup]
  rfl

end Ready

theorem read?_eq_some_iff (h : Route.ofPath? path = some route) :
    store.read? path = some content ↔ Path.isAllowed path = true ∧
      (∀ place ∈ route.through, store.isDirectory place = true) ∧
        store.at? route.target = some (.file content) ∧ route.needsDirectory = false := by
  have hlookup : store.read? path = some content ↔ store.lookup? path = some (.file content) := by
    unfold read?
    cases store.lookup? path with
    | none => simp
    | some entry => cases entry <;> simp
  rw [hlookup, lookup?_eq_some_iff h]
  simp [FileEntry.isDirectory]

theorem exists_route_of_read? (h : store.read? path = some content) :
    ∃ route, Route.ofPath? path = some route := by
  obtain ⟨entry, hlookup, -⟩ := Option.bind_eq_some_iff.1 h
  obtain ⟨route, hleads, -⟩ := Option.bind_eq_some_iff.1 hlookup
  exact ⟨route, hleads⟩

theorem writable_of_read? (hleads : Route.ofPath? path = some route)
    (hname : route.target.isNameable = true) (h : store.read? path = some content) :
    store.Writable path route := by
  obtain ⟨hallowed, hthrough, htarget, hneeds⟩ := (read?_eq_some_iff hleads).1 h
  exact {
    leads := hleads
    allowed := hallowed
    parentAllowed := Route.isAllowed_parent hleads hallowed
    nameable := hname
    entry := hneeds
    free := by rw [isDirectory, htarget]; rfl
    through := fun place hplace => .inl (hthrough place hplace) }

theorem put_put (store : FileStore) (route : Route) (content more : ByteArray) :
    (store.put route content).put route more = store.put route more :=
  Dictionary.insert_insert ..

theorem Writable.exists_ready (h : store.Writable path route) :
    ∃ made : FileStore, made.Ready path route ∧
      ∀ content, store.write path content = (made.put route content, true) := by
  obtain ⟨made, hmade, hfree, -, hdirs⟩ := makeDirectories_eq h.free h.through
  have hready : made.Ready path route := {
    leads := h.leads
    allowed := h.allowed
    parentAllowed := h.parentAllowed
    nameable := h.nameable
    entry := h.entry
    free := hfree
    through := fun place hplace => .inl (hdirs place hplace)
    made := hdirs }
  refine ⟨made, hready, ?_⟩
  intro content
  have hway : store.makeWay route = (made, true) := by
    rw [makeWay, if_pos h.parentAllowed, hmade]
  rw [← hready.write_eq, write, write, h.leads]
  simp only [hway, hready.makeWay]

theorem write_of_read? (h : store.read? path = some content) (more : ByteArray) :
    store.write path more = (store, false) ∨
      ∃ after, store.write path more = (after, true) ∧ after.read? path = some more := by
  obtain ⟨route, hleads⟩ := exists_route_of_read? h
  by_cases hname : route.target.isNameable = true
  · obtain ⟨made, hready, hwrite⟩ := (writable_of_read? hleads hname h).exists_ready
    exact .inr ⟨made.put route more, hwrite more, hready.read?_put more⟩
  · obtain ⟨hallowed, hthrough, -, -⟩ := (read?_eq_some_iff hleads).1 h
    rw [Bool.not_eq_true] at hname
    refine .inl ?_
    simp only [write, hleads, makeWay, Route.isAllowed_parent hleads hallowed, if_true,
      makeDirectories_of_isDirectory hthrough, hname, Bool.and_false, Bool.false_and,
      Bool.false_eq_true, if_false]

theorem isDirectory_or_free_of_insert {place q : Place} (hplace : place.Plain) (hq : q.Plain)
    (hat : store.at? place = none) (hname : place.isNameable = true)
    (h : isDirectory (Dictionary.insert place.spell .directory store) q = true ∨
      at? (Dictionary.insert place.spell .directory store) q = none ∧ q.isNameable = true) :
    store.isDirectory q = true ∨ store.at? q = none ∧ q.isNameable = true := by
  rw [isDirectory_iff, at?_insert] at h
  by_cases hself : q.isAbove = false ∧ q.spell = place.spell
  · have heq : q = place := Place.eq_of_spell_eq hq hplace (Place.ne_nil_of_isAbove hself.1)
      (Place.ne_nil_of_isAbove (isAbove_of_at?_eq_none hat)) hself.2
    exact .inr (heq ▸ ⟨hat, hname⟩)
  · rwa [if_neg hself, ← isDirectory_iff] at h

theorem makeDirectories_cases (hplain : ∀ place ∈ places, place.Plain) {made : FileStore}
    (h : store.makeDirectories places = (made, true)) :
    (∀ place ∈ places, store.isDirectory place = true ∨
      store.at? place = none ∧ place.isNameable = true) ∧
        ∀ place, store.isDirectory place = true ∨ place ∈ places →
          made.isDirectory place = true := by
  induction places generalizing store with
  | nil =>
    cases h
    simp
  | cons place rest ih =>
    rw [List.forall_mem_cons] at hplain
    rw [makeDirectories] at h
    cases hat : store.at? place with
    | none =>
      rw [hat] at h
      simp only at h
      split at h
      · next hname =>
        obtain ⟨hrest, hmade⟩ := ih hplain.2 h
        refine ⟨List.forall_mem_cons.2 ⟨.inr ⟨hat, hname⟩, fun q hq => ?_⟩, fun q hq => hmade q ?_⟩
        · exact isDirectory_or_free_of_insert hplain.1 (hplain.2 q hq) hat hname (hrest q hq)
        · rcases hq with hq | hq
          · exact .inl (isDirectory_insert _ hq)
          · rcases List.mem_cons.1 hq with rfl | hq
            · exact .inl (isDirectory_insert_self hat)
            · exact .inr hq
      · cases h
    | some entry =>
      rw [hat] at h
      cases entry with
      | file content => cases h
      | directory =>
        obtain ⟨hrest, hmade⟩ := ih hplain.2 h
        have hdir := isDirectory_iff.2 hat
        refine ⟨List.forall_mem_cons.2 ⟨.inl hdir, hrest⟩, fun q hq => hmade q ?_⟩
        rcases hq with hq | hq
        · exact .inl hq
        · rcases List.mem_cons.1 hq with rfl | hq
          · exact .inl hdir
          · exact .inr hq

/-- Where one content can be written any content can, and that is where all that is needed on the way
is there or can be made. -/
theorem write_succeeds_iff :
    (store.write path content).2 = true ↔ ∃ route, store.Writable path route := by
  constructor
  · intro h
    cases hleads : Route.ofPath? path with
    | none => rw [write, hleads] at h; cases h
    | some route =>
      rw [write, hleads] at h
      simp only at h
      split at h
      · next hcond =>
        simp only [Bool.and_eq_true, Bool.not_eq_true'] at hcond
        obtain ⟨⟨⟨⟨hready, hallowed⟩, hname⟩, hentry⟩, hfree⟩ := hcond
        have hparent := Route.isAllowed_parent hleads hallowed
        rw [makeWay, if_pos hparent] at hready hfree
        obtain ⟨hthrough, hmade⟩ := makeDirectories_cases (Route.plain_of_mem_through hleads)
          (Prod.ext rfl hready)
        refine ⟨route, hleads, hallowed, hparent, hname, hentry, ?_, ?_⟩
        · rw [← Bool.not_eq_true] at hfree ⊢
          exact fun h => hfree (hmade _ (.inl h))
        · intro place hplace
          rcases hthrough place hplace with hdir | ⟨hnone, hname⟩
          · exact .inl hdir
          · exact .inr ⟨hnone, hname, spell_ne_of_isDirectory (hmade _ (.inr hplace))
              (isAbove_of_at?_eq_none hnone) hfree⟩
      · cases h
  · rintro ⟨route, h⟩
    obtain ⟨made, -, hwrite⟩ := h.exists_ready
    rw [hwrite]

section Text

variable {text : String}

@[simp] theorem fromUTF8?_toUTF8 (text : String) : String.fromUTF8? text.toUTF8 = some text := by
  rw [String.fromUTF8?, String.toUTF8_eq_toByteArray, dif_pos text.isValidUTF8]
  rfl

@[simp] theorem readText?_eq_some_iff :
    store.readText? path = some text ↔ store.read? path = some text.toUTF8 := by
  unfold readText?
  cases h : store.read? path with
  | none => simp
  | some content =>
    simp only [Option.bind_eq_bind, Option.bind_some, Option.some.injEq]
    constructor
    · intro htext
      unfold String.fromUTF8? at htext
      split at htext
      · cases htext
        rfl
      · cases htext
    · rintro rfl
      exact fromUTF8?_toUTF8 text

end Text

end FileStore

end AngularClient
