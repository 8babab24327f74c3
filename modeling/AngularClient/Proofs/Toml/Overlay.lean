import AngularClient.Proofs.Dictionary
import AngularClient.Toml.Reader

namespace AngularClient

namespace Toml

/-- A value whose tables, as far as tables lead to them, have their keys in order. -/
inductive Ordered : Toml → Prop
  | table {entries : List (String × Toml)} (sorted : Dictionary.Sorted entries)
    (inner : ∀ e ∈ entries, Ordered e.2) : Ordered (.table entries)
  | other {t : Toml} (h : ∀ entries, t ≠ .table entries) : Ordered t

theorem Ordered.sorted {entries : List (String × Toml)} (h : Ordered (.table entries)) :
    Dictionary.Sorted entries := by
  cases h with
  | table sorted _ => exact sorted
  | other h => exact absurd rfl (h entries)

theorem Ordered.of_some {t u : Toml} (h : some t = some u) (ht : ∀ entries, t ≠ .table entries) :
    u.Ordered := Option.some.inj h ▸ .other ht

theorem Ordered.find? {t u : Toml} {key : String} (h : t.Ordered) (hu : t.find? key = some u) :
    u.Ordered := by
  cases h with
  | table _ inner => exact inner _ (Dictionary.mem_of_find?_eq_some hu)
  | other h =>
    cases t with
    | table entries => exact absurd rfl (h entries)
    | _ => cases hu

theorem untag?_cons_cases {key : String} {value t : Toml} {rest : List (String × Toml)}
    (h : (Toml.table ((key, value) :: rest)).untag? = some t) :
    (∃ spelling, t = .moment spelling) ∨ ∃ first rest', value.untag? = some first ∧
      untagEntries? rest = some rest' ∧ t = .table (Dictionary.ofList ((key, first) :: rest')) := by
  rw [untag?] at h
  split at h
  · obtain ⟨word, -, h⟩ := Option.bind_eq_some_iff.1 h
    obtain ⟨spelling, -, h⟩ := Option.bind_eq_some_iff.1 h
    cases h
    exact .inl ⟨_, rfl⟩
  · obtain ⟨first, hfirst, h⟩ := Option.bind_eq_some_iff.1 h
    obtain ⟨rest', hrest, h⟩ := Option.bind_eq_some_iff.1 h
    cases h
    exact .inr ⟨first, rest', hfirst, hrest, rfl⟩

mutual

theorem ordered_of_untag? : ∀ (t : Toml) {u : Toml}, t.untag? = some u → u.Ordered
  | .string _, _, h => .of_some h nofun
  | .integer _, _, h => .of_some h nofun
  | .float _, _, h => .of_some h nofun
  | .boolean _, _, h => .of_some h nofun
  | .moment _, _, h => .of_some h nofun
  | .array items, u, h => by
    rw [untag?] at h
    obtain ⟨items', -, h⟩ := Option.bind_eq_some_iff.1 h
    cases h
    exact .other nofun
  | .table [], u, h => by
    rw [untag?] at h
    cases h
    exact .table List.Pairwise.nil nofun
  | .table ((key, value) :: rest), u, h => by
    rcases untag?_cons_cases h with ⟨spelling, rfl⟩ | ⟨first, rest', hfirst, hrest, rfl⟩
    · exact .other nofun
    · refine .table (Dictionary.sorted_ofList _) ?_
      intro e he
      rcases List.mem_cons.1 (Dictionary.mem_of_mem_ofList he) with rfl | he
      · exact ordered_of_untag? value hfirst
      · exact ordered_of_untagEntries? rest hrest e he

theorem ordered_of_untagEntries? : ∀ (entries : List (String × Toml))
    {entries' : List (String × Toml)}, untagEntries? entries = some entries' →
      ∀ e ∈ entries', e.2.Ordered
  | [], entries', h => by
    rw [untagEntries?] at h
    cases h
    exact nofun
  | (key, t) :: rest, entries', h => by
    rw [untagEntries?] at h
    obtain ⟨u, hu, h⟩ := Option.bind_eq_some_iff.1 h
    obtain ⟨rest', hrest, h⟩ := Option.bind_eq_some_iff.1 h
    cases h
    rw [List.forall_mem_cons]
    exact ⟨ordered_of_untag? t hu, ordered_of_untagEntries? rest hrest⟩

end

theorem ordered_of_ofText? {text : String} {t : Toml} (h : ofText? text = some t) : t.Ordered := by
  obtain ⟨d, -, h⟩ := Option.bind_eq_some_iff.1 h
  exact ordered_of_untag? _ h

theorem untag?_table_cases {entries : List (String × Toml)} {t : Toml}
    (h : (Toml.table entries).untag? = some t) :
    (∃ entries', t = .table entries') ∨ ∃ spelling, t = .moment spelling := by
  cases entries with
  | nil => exact .inl ⟨[], (Option.some.inj h).symm⟩
  | cons e rest =>
    rcases untag?_cons_cases h with ⟨spelling, rfl⟩ | ⟨first, rest', -, -, rfl⟩
    · exact .inr ⟨spelling, rfl⟩
    · exact .inl ⟨_, rfl⟩

theorem ofText?_cases {text : String} {t : Toml} (h : ofText? text = some t) :
    (∃ entries, t = .table entries) ∨ ∃ spelling, t = .moment spelling := by
  obtain ⟨d, -, h⟩ := Option.bind_eq_some_iff.1 h
  exact untag?_table_cases h

section Overlay

def isTable : Toml → Bool
  | .table _ => true
  | _ => false

theorem overlay_cases (b t : Toml) : (b.isTable && t.isTable) = false ∧ b.overlay t = t ∨
    ∃ base top, b = .table base ∧ t = .table top := by
  cases t with
  | table top =>
    cases b with
    | table base => exact .inr ⟨base, top, rfl, rfl⟩
    | _ => exact .inl ⟨rfl, rfl⟩
  | _ => exact .inl ⟨Bool.and_false _, by cases b <;> rfl⟩

variable {base top : List (String × Toml)}

def laid? : Option Toml → Option Toml → Option Toml
  | some b, some t => some (b.overlay t)
  | b, t => t.or b

theorem sorted_overlayEntries (h : Dictionary.Sorted base) (top : List (String × Toml)) :
    Dictionary.Sorted (overlayEntries base top) := by
  induction top generalizing base with
  | nil => rwa [overlayEntries]
  | cons e rest ih =>
    rw [overlayEntries]
    exact ih (h.insert _ _)

theorem find?_overlayEntries (h : Dictionary.Sorted top) (key : String) :
    Dictionary.find? (overlayEntries base top) key =
      laid? (Dictionary.find? base key) (Dictionary.find? top key) := by
  induction top generalizing base with
  | nil =>
    rw [overlayEntries]
    cases Dictionary.find? base key <;> rfl
  | cons e rest ih =>
    obtain ⟨k, t⟩ := e
    obtain ⟨hk, hrest⟩ := List.pairwise_cons.1 h
    rw [overlayEntries, ih hrest, Dictionary.find?_insert]
    by_cases heq : key = k
    · subst heq
      have hnone : Dictionary.find? rest key = none := by
        rw [Dictionary.find?_eq_none_iff]
        intro hmem
        exact String.lt_irrefl _ (hk key hmem)
      have hfirst : Dictionary.find? ((key, t) :: rest) key = some t := by simp [Dictionary.find?]
      rw [if_pos rfl, hnone, hfirst]
      cases Dictionary.find? base key <;> rfl
    · have hlater : Dictionary.find? ((k, t) :: rest) key = Dictionary.find? rest key := by
        have hne : (key == k) = false := by rw [beq_eq_false_iff_ne]; exact heq
        rw [Dictionary.find?, Dictionary.find?, List.lookup_cons, hne]
      rw [if_neg heq, hlater]

end Overlay

end Toml

end AngularClient
