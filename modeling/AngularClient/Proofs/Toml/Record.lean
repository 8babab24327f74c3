import AngularClient.Proofs.Json.Record
import AngularClient.Proofs.Toml.Overlay
import Mathlib.Data.List.Pairwise

/-! Tables read as records.  A field may go by several names, and two of them in one table are one too
many.  So a table laid over another can make a record of two that are none: where each spells the
field in its own way, the two spellings meet. -/

namespace AngularClient

open Document (FieldNames fieldOf)

def Document.SameField (names : List FieldNames) (key key' : String) : Prop :=
  (fieldOf names key).isSome = true ∧ fieldOf names key = fieldOf names key'

theorem Document.SameField.symm {names : List FieldNames} {key key' : String}
    (h : SameField names key key') : SameField names key' key := ⟨h.2 ▸ h.1, h.2.symm⟩

namespace Toml

open Document (SameField)

def given? (names : List FieldNames) (entries : List (String × Toml)) (name : String) :
    Option Toml :=
  (entries.find? fun e => fieldOf names e.1 = some name).map Prod.snd

def SpelledOnce (names : List FieldNames) (entries : List (String × Toml)) : Prop :=
  ∀ k ∈ Dictionary.keys entries, ∀ k' ∈ Dictionary.keys entries, SameField names k k' → k = k'

def Clash (names : List FieldNames) (base top : List (String × Toml)) : Prop :=
  ∃ k ∈ Dictionary.keys base, ∃ k' ∈ Dictionary.keys top, SameField names k k' ∧ k ≠ k'

variable {names : List FieldNames} {entries base top : List (String × Toml)} {key name : String}

section Reading

@[simp] theorem members?_toDocument (entries : List (String × Toml)) :
    (Toml.table entries).toDocument.members? =
      some (entries.map fun e => (e.1, e.2.toDocument)) := by
  rw [toDocument, Document.members?]
  induction entries with
  | nil => rfl
  | cons e rest ih =>
    obtain ⟨key, t⟩ := e
    rw [entriesToDocument, List.mapM_cons, ih]
    rfl

@[simp] theorem record?_table (names : List FieldNames) (entries : List (String × Toml)) :
    (Toml.table entries).toDocument.record? names =
      Document.fieldsOf? names (entries.map fun e => (e.1, e.2.toDocument)) := by
  have hbind : (Toml.table entries).toDocument.record? names =
      (Toml.table entries).toDocument.members?.bind (Document.fieldsOf? names) := by
    rw [toDocument]
    rfl
  rw [hbind, members?_toDocument, Option.bind_some]

def fields (names : List FieldNames) (entries : List (String × Toml)) : Document.Fields :=
  (entries.map fun e => (e.1, e.2.toDocument)).filterMap fun (k, d) =>
    (fieldOf names k).map (·, d)

@[simp] theorem fields_cons_of_none {e : String × Toml} (h : fieldOf names e.1 = none) :
    fields names (e :: entries) = fields names entries := by
  simp [fields, h]

@[simp] theorem fields_cons_of_some {e : String × Toml} (h : fieldOf names e.1 = some name) :
    fields names (e :: entries) = (name, e.2.toDocument) :: fields names entries := by
  simp [fields, h]

@[simp]
theorem lookup_fields (names : List FieldNames) (entries : List (String × Toml)) (name : String) :
    (fields names entries).lookup name = (given? names entries name).map toDocument := by
  induction entries with
  | nil => rfl
  | cons e rest ih =>
    rw [given?] at *
    cases hfield : fieldOf names e.1 with
    | none => rw [fields_cons_of_none hfield, List.find?_cons_of_neg (by simp [hfield]), ih]
    | some field =>
      rw [fields_cons_of_some hfield, List.lookup_cons]
      by_cases heq : name = field
      · rw [List.find?_cons_of_pos (by simp [hfield, heq]), heq, beq_self_eq_true]
        rfl
      · have hne : (name == field) = false := by rw [beq_eq_false_iff_ne]; exact heq
        rw [List.find?_cons_of_neg (by simp [hfield, Ne.symm heq]), hne, ih]

theorem map_fst_fields (names : List FieldNames) (entries : List (String × Toml)) :
    (fields names entries).map Prod.fst = (Dictionary.keys entries).filterMap (fieldOf names) := by
  induction entries with
  | nil => rfl
  | cons e rest ih =>
    rw [Dictionary.keys] at *
    cases hfield : fieldOf names e.1 with
    | none => rw [fields_cons_of_none hfield, List.map_cons, List.filterMap_cons_none hfield, ih]
    | some field =>
      rw [fields_cons_of_some hfield, List.map_cons, List.map_cons,
        List.filterMap_cons_some hfield, ih]

theorem nodup_fields_iff (h : Dictionary.Sorted entries) :
    ((fields names entries).map Prod.fst).Nodup ↔ SpelledOnce names entries := by
  have hkeys := h.nodup_keys
  rw [map_fst_fields, List.Nodup, List.pairwise_filterMap]
  constructor
  · intro hpairs k hk k' hk' ⟨hsome, hsame⟩
    by_contra hne
    obtain ⟨field, hfield⟩ := Option.isSome_iff_exists.1 hsome
    have hsymm : Std.Symm fun a a' => ∀ b, fieldOf names a = some b →
        ∀ b', fieldOf names a' = some b' → b ≠ b' :=
      ⟨fun a a' hne b hb b' hb' heq => hne b' hb' b hb heq.symm⟩
    exact hpairs.forall hk hk' hne field hfield field (hsame ▸ hfield) rfl
  · intro honce
    refine hkeys.pairwise_of_forall_ne ?_
    intro k hk k' hk' hne b hb b' hb' heq
    refine hne (honce k hk k' hk' ⟨Option.isSome_of_mem hb, ?_⟩)
    rw [hb, hb', heq]

theorem record?_eq_some_iff (h : Dictionary.Sorted entries) {found : Document.Fields} :
    (Toml.table entries).toDocument.record? names = some found ↔
      SpelledOnce names entries ∧ found = fields names entries := by
  rw [record?_table, Document.fieldsOf?, ← nodup_fields_iff h]
  change (if ((fields names entries).map Prod.fst).Nodup then some (fields names entries) else none) =
    some found ↔ _
  split
  · next hnodup => simp [hnodup, eq_comm]
  · next hnodup => simp [hnodup]

end Reading

section Overlay

theorem mem_keys_iff : key ∈ Dictionary.keys entries ↔ Dictionary.find? entries key ≠ none := by
  rw [ne_eq, Dictionary.find?_eq_none_iff, not_not]

@[simp] theorem mem_keys_overlayEntries (htop : Dictionary.Sorted top) :
    key ∈ Dictionary.keys (overlayEntries base top) ↔
      key ∈ Dictionary.keys base ∨ key ∈ Dictionary.keys top := by
  rw [mem_keys_iff, mem_keys_iff, mem_keys_iff, find?_overlayEntries htop]
  cases Dictionary.find? base key <;> cases Dictionary.find? top key <;> simp [laid?]

theorem spelledOnce_overlayEntries_iff (htop : Dictionary.Sorted top) :
    SpelledOnce names (overlayEntries base top) ↔
      SpelledOnce names base ∧ SpelledOnce names top ∧ ¬ Clash names base top := by
  constructor
  · intro h
    refine ⟨?_, ?_, ?_⟩
    · intro k hk k' hk'
      exact h k ((mem_keys_overlayEntries htop).2 (.inl hk)) k'
        ((mem_keys_overlayEntries htop).2 (.inl hk'))
    · intro k hk k' hk'
      exact h k ((mem_keys_overlayEntries htop).2 (.inr hk)) k'
        ((mem_keys_overlayEntries htop).2 (.inr hk'))
    · rintro ⟨k, hk, k', hk', hsame, hne⟩
      exact hne (h k ((mem_keys_overlayEntries htop).2 (.inl hk)) k'
        ((mem_keys_overlayEntries htop).2 (.inr hk')) hsame)
  · rintro ⟨hbase, htop', hclash⟩ k hk k' hk' hsame
    rcases (mem_keys_overlayEntries htop).1 hk with hk | hk <;>
      rcases (mem_keys_overlayEntries htop).1 hk' with hk' | hk'
    · exact hbase k hk k' hk' hsame
    · by_contra hne
      exact hclash ⟨k, hk, k', hk', hsame, hne⟩
    · by_contra hne
      exact hclash ⟨k', hk', k, hk, hsame.symm, Ne.symm hne⟩
    · exact htop' k hk k' hk' hsame

theorem given?_eq_find? (hkey : fieldOf names key = some name)
    (h : ∀ k ∈ Dictionary.keys entries, SameField names key k → key = k) :
    given? names entries name = Dictionary.find? entries key := by
  induction entries with
  | nil => rfl
  | cons e rest ih =>
    rw [Dictionary.keys, List.map_cons, List.forall_mem_cons] at h
    rw [given?, Dictionary.find?, List.lookup_cons]
    by_cases heq : key = e.1
    · rw [List.find?_cons_of_pos (by simp [← heq, hkey]), heq, beq_self_eq_true]
      rfl
    · have hne : (key == e.1) = false := by rw [beq_eq_false_iff_ne]; exact heq
      have hother : fieldOf names e.1 ≠ some name := fun hfield =>
        heq (h.1 ⟨Option.isSome_of_mem hkey, hkey.trans hfield.symm⟩)
      rw [List.find?_cons_of_neg (by simp [hother]), hne]
      exact ih h.2

theorem given?_eq_none (h : ∀ k ∈ Dictionary.keys entries, fieldOf names k ≠ some name) :
    given? names entries name = none := by
  rw [given?, Option.map_eq_none_iff, List.find?_eq_none]
  intro e he
  simpa using h e.1 (List.mem_map_of_mem he)

theorem given?_overlayEntries (htop : Dictionary.Sorted top)
    (h : SpelledOnce names (overlayEntries base top)) (name : String) :
    given? names (overlayEntries base top) name =
      laid? (given? names base name) (given? names top name) := by
  by_cases hgiven : ∃ k ∈ Dictionary.keys (overlayEntries base top), fieldOf names k = some name
  · -- One key gives the field in the result, so no other does in either table.
    obtain ⟨key, hkey, hfield⟩ := hgiven
    have hbase : ∀ k ∈ Dictionary.keys base, SameField names key k → key = k := fun k hk =>
      h key hkey k ((mem_keys_overlayEntries htop).2 (.inl hk))
    have htop' : ∀ k ∈ Dictionary.keys top, SameField names key k → key = k := fun k hk =>
      h key hkey k ((mem_keys_overlayEntries htop).2 (.inr hk))
    rw [given?_eq_find? hfield (h key hkey), given?_eq_find? hfield hbase,
      given?_eq_find? hfield htop', find?_overlayEntries htop]
  · push Not at hgiven
    rw [given?_eq_none hgiven, given?_eq_none fun k hk =>
        hgiven k ((mem_keys_overlayEntries htop).2 (.inl hk)),
      given?_eq_none fun k hk => hgiven k ((mem_keys_overlayEntries htop).2 (.inr hk))]
    rfl

end Overlay

section Named

def named (ns : List String) : List FieldNames := ns.map fun n => [n]

theorem fieldOf_named_eq_some_iff {ns : List String} :
    fieldOf (named ns) key = some name ↔ key = name ∧ name ∈ ns := by
  rw [Document.fieldOf_eq_some_iff (by simp [named])]
  simp [named]

theorem eq_of_sameField_named {ns : List String} {key' : String}
    (h : SameField (named ns) key key') : key = key' := by
  obtain ⟨field, hfield⟩ := Option.isSome_iff_exists.1 h.1
  have hfield' := h.2 ▸ hfield
  exact (fieldOf_named_eq_some_iff.1 hfield).1.trans (fieldOf_named_eq_some_iff.1 hfield').1.symm

theorem exists_record?_named (h : Dictionary.Sorted entries) (ns : List String) :
    ∃ found, (Toml.table entries).toDocument.record? (named ns) = some found ∧
      ∀ name ∈ ns, found.lookup name = (Dictionary.find? entries name).map toDocument := by
  have honce : SpelledOnce (named ns) entries := fun k _ k' _ => eq_of_sameField_named
  refine ⟨_, (record?_eq_some_iff h).2 ⟨honce, rfl⟩, ?_⟩
  intro name hname
  rw [lookup_fields, given?_eq_find? (fieldOf_named_eq_some_iff.2 ⟨rfl, hname⟩)
    fun k _ => eq_of_sameField_named]

end Named

section Read

variable {α : Type} {value : Document → Option α} {b t : Option Toml} {x y : Option α}

theorem read?_laid? (hvalue : ∀ members, value (.object members) = none)
    (hb : Document.read? value (b.map toDocument) = some x)
    (ht : Document.read? value (t.map toDocument) = some y) :
    Document.read? value ((laid? b t).map toDocument) = some (y.or x) := by
  cases t with
  | none =>
    cases ht
    cases b <;> exact hb
  | some t =>
    obtain ⟨z, hz, rfl⟩ := Option.map_eq_some_iff.1 ht
    have hlaid : laid? b (some t) = some t := by
      cases b with
      | none => rfl
      | some b =>
        rcases overlay_cases b t with ⟨-, h⟩ | ⟨base, top, -, rfl⟩
        · rw [laid?, h]
        · rw [toDocument, hvalue] at hz
          cases hz
    rw [hlaid]
    exact ht

end Read

end Toml

end AngularClient
