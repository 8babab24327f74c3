import AngularClient.Files.Store
import Mathlib.Data.List.Basic

namespace AngularClient

namespace Place

def Plain (place : Place) : Prop := ∀ name ∈ place, '/' ∉ name.toList

variable {place other : Place} {name : String}

theorem Plain.step (h : place.Plain) (hname : '/' ∉ name.toList) : (place.step name).Plain := by
  have happend : ∀ {name : String}, '/' ∉ name.toList → Plain (place ++ [name]) := by
    intro name hname part hpart
    rcases List.mem_append.1 hpart with hpart | hpart
    · exact h part hpart
    · rw [List.mem_singleton.1 hpart]
      exact hname
  unfold Place.step
  split
  · exact happend hname
  · split
    · exact h
    · split
      · exact happend (by decide)
      · exact fun part hpart => h part (List.dropLast_subset _ hpart)

theorem splitOn_spell (h : place.Plain) (hne : place ≠ []) :
    place.spell.toList.splitOn '/' = place.map String.toList := by
  have hslash : "/".toList = ['/'] := by decide
  rw [spell, String.toList_intercalate, hslash, List.splitOn_intercalate]
  · intro name hname
    obtain ⟨part, hpart, rfl⟩ := List.mem_map.1 hname
    exact h part hpart
  · simpa using hne

theorem ne_nil_of_isAbove (h : place.isAbove = false) : place ≠ [] := by
  rintro rfl
  cases h

theorem eq_of_spell_eq (h : place.Plain) (hother : other.Plain) (hne : place ≠ [])
    (hne' : other ≠ []) (heq : place.spell = other.spell) : place = other := by
  apply List.map_injective_iff.2 (fun _ _ => String.toList_injective)
  rw [← splitOn_spell h hne, ← splitOn_spell hother hne', heq]

end Place

namespace Route

variable {path : String} {route : Route}

theorem not_mem_of_mem_splitOn {c : Char} {s : List Char} :
    ∀ part ∈ s.splitOn c, c ∉ part := by
  induction s with
  | nil => simp
  | cons d s ih =>
    rw [List.splitOn_cons_eq_if_modifyHead]
    split
    · simpa using ih
    · next hd =>
      cases hs : s.splitOn c with
      | nil => simp
      | cons first rest =>
        rw [hs, List.forall_mem_cons] at ih
        rw [List.modifyHead_cons, List.forall_mem_cons]
        refine ⟨?_, ih.2⟩
        rw [List.mem_cons, not_or]
        exact ⟨fun hc => hd (by simp [hc]), ih.1⟩

theorem not_mem_of_mem_parts : ∀ part ∈ parts path, '/' ∉ part.toList := by
  intro part hpart
  obtain ⟨name, hname, rfl⟩ := List.mem_map.1 hpart
  rw [String.toList_ofList]
  exact not_mem_of_mem_splitOn name hname

theorem plain_of_mem_places {names : List String} (h : ∀ name ∈ names, '/' ∉ name.toList) :
    ∀ {start : Place}, start.Plain → ∀ place ∈ places start names, place.Plain := by
  induction names with
  | nil => simp [places]
  | cons name names ih =>
    intro start hstart
    rw [List.forall_mem_cons] at h
    have hstep := hstart.step h.1
    rw [places, List.forall_mem_cons]
    exact ⟨hstep, ih h.2 hstep⟩

theorem plain_of_ofPath? (h : ofPath? path = some route) :
    route.target.Plain ∧ ∀ place ∈ route.through, place.Plain := by
  simp only [ofPath?] at h
  split at h
  · cases h
  · obtain rfl := Option.some.inj h
    have hstart : Place.Plain (if path.toList.head? = some '/' then [""] else []) := by
      split <;> simp [Place.Plain]
    have hnames : ∀ name ∈ (parts path).filter (! staysPut ·), '/' ∉ name.toList :=
      fun name hname => not_mem_of_mem_parts name (List.mem_of_mem_filter hname)
    have hvisited := plain_of_mem_places hnames hstart
    constructor
    · cases hlast : (places _ _).getLast? with
      | none => exact hstart
      | some place => exact hvisited place (List.mem_of_getLast? hlast)
    · exact fun place hplace => hvisited place (List.dropLast_subset _ hplace)

theorem plain_of_mem_through (h : ofPath? path = some route) :
    ∀ place ∈ route.through, place.Plain := (plain_of_ofPath? h).2

theorem intercalate_prefix (c : Char) (before after : List (List Char)) :
    [c].intercalate before <+: [c].intercalate (before ++ after) := by
  induction before with
  | nil => simp
  | cons first before ih =>
    cases before with
    | nil => cases after <;> simp
    | cons second before =>
      have h := (List.prefix_append_right_inj (first ++ [c])).2 ih
      simpa [List.intercalate_cons_cons] using h

theorem parentParts_prefix (parts : List String) : parentParts parts <+: parts := by
  rw [← List.reverse_suffix, parentParts, List.reverse_reverse]
  exact (List.dropWhile_suffix _).trans ((List.drop_suffix _ _).trans (List.dropWhile_suffix _))

theorem parent_eq (h : ofPath? path = some route) :
    route.parent = "/".intercalate (parentParts (parts path)) := by
  simp only [ofPath?] at h
  split at h
  · cases h
  · obtain rfl := Option.some.inj h
    rfl

theorem parent_prefix (h : ofPath? path = some route) : route.parent.toList <+: path.toList := by
  have hslash : "/".toList = ['/'] := by decide
  have hpath : ['/'].intercalate ((parts path).map String.toList) = path.toList := by
    have hmap : (String.toList ∘ String.ofList) = id := by
      funext s
      exact String.toList_ofList
    rw [parts, List.map_map, hmap, List.map_id, List.intercalate_splitOn]
  obtain ⟨after, hafter⟩ := parentParts_prefix (parts path)
  rw [parent_eq h, String.toList_intercalate, hslash, ← hpath]
  generalize parentParts (parts path) = front at hafter ⊢
  rw [← hafter, List.map_append]
  exact intercalate_prefix '/' _ _

theorem isAllowed_parent (h : ofPath? path = some route) (hpath : Path.isAllowed path = true) :
    Path.isAllowed route.parent = true := by
  obtain ⟨rest, hrest⟩ := parent_prefix h
  have heq : path = route.parent ++ String.ofList rest := by
    apply String.toList_injective
    rw [String.toList_append, String.toList_ofList, hrest]
  rw [heq] at hpath
  simp only [Path.isAllowed, String.utf8ByteSize_append, String.toList_append, Bool.and_eq_true,
    decide_eq_true_eq, Bool.not_eq_true', List.contains_eq_mem, decide_eq_false_iff_not,
    List.mem_append, not_or] at hpath ⊢
  exact ⟨Nat.le_trans (Nat.le_add_right _ _) hpath.1, hpath.2.1⟩

end Route

end AngularClient
