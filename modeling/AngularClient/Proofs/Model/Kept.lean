import AngularClient.Proofs.Model.Collection

namespace AngularClient

def ModelClass.retained (o : Options) (c : ModelClass) : Bool :=
  c.ctor.isSome && !o.ignores (o.displayName c.name)

@[simp] theorem ModelClass.retained_iff {o : Options} {c : ModelClass} :
    c.retained o = true ↔ c.ctor.isNone = false ∧ o.ignores (o.displayName c.name) = false := by
  rw [retained, Bool.and_eq_true, Bool.not_eq_true', Option.isNone_eq_false_iff]

@[simp] theorem Model.name_ofClass (c : ModelClass) (name : String) :
    (Model.ofClass c name).name = name := rfl

theorem find?_eq_some_of_nodup {α β : Type} {l : List α} {f : α → β} {p : α → Bool} {a : α}
    (hl : (l.map f).Nodup) (ha : a ∈ l) (hp : p a = true)
    (h : ∀ b ∈ l, p b = true → f b = f a) : l.find? p = some a := by
  cases hb : l.find? p with
  | none => exact absurd hp (List.find?_eq_none.1 hb a ha)
  | some b =>
    have hmem := List.mem_of_find?_eq_some hb
    rw [List.inj_on_of_nodup_map hl hmem ha (h b hmem (List.find?_some hb))]

theorem find?_perm {α β : Type} [BEq β] [LawfulBEq β] {l l' : List α} {f : α → β}
    (hl : (l.map f).Nodup) (h : l.Perm l') (k : β) :
    l'.find? (fun a => f a == k) = l.find? (fun a => f a == k) := by
  cases ha : l.find? (fun a => f a == k) with
  | none =>
    rw [List.find?_eq_none] at ha ⊢
    exact fun a ha' => ha a (h.mem_iff.2 ha')
  | some a =>
    have hk := List.find?_some ha
    apply find?_eq_some_of_nodup ((h.map f).nodup_iff.1 hl)
      (h.mem_iff.1 (List.mem_of_find?_eq_some ha)) hk
    intro b _ hb
    rw [eq_of_beq hb, eq_of_beq hk]

namespace ModelSet

variable {set : ModelSet} {m new : Model} {name : String}

theorem find_cons (m : Model) (set : ModelSet) :
    find (m :: set) name = if m.name = name then some m else set.find name := by
  rw [find, List.find?_cons, find]
  by_cases h : m.name = name
  · rw [h, beq_self_eq_true, if_pos rfl]
  · rw [beq_false_of_ne h, if_neg h]

@[simp] theorem find_of_mem (hd : set.names.Nodup) (hm : m ∈ set) : set.find m.name = some m := by
  apply find?_eq_some_of_nodup hd hm
  · exact beq_self_eq_true m.name
  · intro _ _ h
    exact eq_of_beq h

@[simp] theorem find_isSome : (set.find name).isSome = set.any (·.name == name) := by
  rw [Bool.eq_iff_iff, find, List.find?_isSome, List.any_eq_true]

theorem find_append (set : ModelSet) (new : Model) (name : String) :
    find (set ++ [new]) name = (set.find name).or (if new.name = name then some new else none) := by
  rw [find, List.find?_append, ← find, ← find, find_cons]
  rfl

theorem find_replace (set : ModelSet) (new : Model) (name : String) :
    find (set.map fun m => if m.name == new.name then new else m) name =
      if new.name = name then (set.find name).map fun _ => new else set.find name := by
  induction set with
  | nil => simp [find]
  | cons first rest ih =>
    rw [List.map_cons, find_cons, ih, find_cons]
    by_cases hfirst : first.name = new.name
    · by_cases hname : new.name = name
      · simp [hfirst, hname]
      · simp [hfirst, hname]
    · by_cases hname : new.name = name
      · subst hname
        simp [hfirst]
      · simp [hfirst, hname]

end ModelSet

namespace Collection

variable {o : Options} {name : String}

def kept? (o : Options) (classes : List ModelClass) (name : String) : Option ModelClass :=
  classes.reverse.find? fun c => c.retained o && o.displayName c.name == name

theorem kept?_append (classes : List ModelClass) (c : ModelClass) :
    kept? o (classes ++ [c]) name =
      if c.retained o ∧ o.displayName c.name = name then some c else kept? o classes name := by
  rw [kept?, List.reverse_append, List.reverse_singleton, List.singleton_append, List.find?_cons,
    kept?]
  by_cases h : c.retained o ∧ o.displayName c.name = name
  · simp [h]
  · have hf : (c.retained o && o.displayName c.name == name) = false := by
      rw [← Bool.not_eq_true, Bool.and_eq_true, beq_iff_eq]
      exact h
    rw [hf, if_neg h]

@[simp] theorem models_add_of_not_retained (col : Collection) {c : ModelClass}
    (hc : c.retained o = false) : (col.add o c).models = col.models := by
  rw [ModelClass.retained, Bool.and_eq_false_iff] at hc
  simp only [add]
  rcases hc with hc | hc
  · rw [Option.isSome_eq_false_iff] at hc
    rw [hc]
    split <;> rfl
  · rw [Bool.not_eq_false'] at hc
    rw [if_pos hc]
    rfl

theorem find_add_of_retained (col : Collection) {c : ModelClass} (hc : c.retained o = true) :
    (col.add o c).models.find name =
      if o.displayName c.name = name then some (Model.ofClass c name)
      else col.models.find name := by
  obtain ⟨hctor, hignores⟩ := ModelClass.retained_iff.1 hc
  simp only [add, hignores, hctor, Bool.false_eq_true, if_false, ← ModelSet.find_isSome]
  have hreplace := col.models.find_replace (Model.ofClass c (o.displayName c.name)) name
  have happend := col.models.find_append (Model.ofClass c (o.displayName c.name)) name
  rw [Model.name_ofClass] at hreplace happend
  by_cases hname : o.displayName c.name = name
  · -- whether there is a model to replace depends on what is found under this very name
    subst hname
    rw [if_pos rfl] at hreplace happend ⊢
    cases hfind : col.models.find (o.displayName c.name) with
    | none =>
      rw [hfind] at happend
      exact happend
    | some m =>
      rw [hfind] at hreplace
      exact hreplace
  · rw [if_neg hname] at hreplace happend ⊢
    split
    · exact hreplace
    · rw [happend, Option.or_none]

theorem find_ofClasses (classes : List ModelClass) :
    (ofClasses o classes).models.find name =
      (kept? o classes name).map fun c => Model.ofClass c name := by
  induction classes using List.reverseRecOn with
  | nil => rfl
  | append_singleton classes c ih =>
    rw [ofClasses_append, kept?_append]
    cases hc : c.retained o with
    | false =>
      rw [models_add_of_not_retained _ hc, ih, if_neg (by simp)]
    | true =>
      rw [find_add_of_retained _ hc, ih]
      by_cases hname : o.displayName c.name = name
      · simp [hname]
      · simp [hname]

theorem exists_kept_of_mem {classes : List ModelClass} {m : Model}
    (hm : m ∈ (ofClasses o classes).models) :
    ∃ c, kept? o classes m.name = some c ∧ m = Model.ofClass c m.name := by
  have hfind := ModelSet.find_of_mem (nodup_names classes) hm
  rw [find_ofClasses, Option.map_eq_some_iff] at hfind
  obtain ⟨c, hc, hmodel⟩ := hfind
  exact ⟨c, hc, hmodel.symm⟩

end Collection

namespace Registry

variable {r : Registry} {o : Options} {name : String}

@[simp] theorem class?_of_nodup {c : ModelClass} (hclasses : (r.classes.map (·.name)).Nodup)
    (hc : c ∈ r.classes) : r.class? c.name = some c := by
  apply find?_eq_some_of_nodup hclasses hc
  · exact beq_self_eq_true c.name
  · intro d _ hd
    exact eq_of_beq hd

def kept? (r : Registry) (o : Options) (name : String) : Option ModelClass :=
  Collection.kept? o r.classes name

theorem kept?_spec {c : ModelClass} (h : r.kept? o name = some c) :
    c ∈ r.classes ∧ c.retained o = true ∧ o.displayName c.name = name := by
  have hp := List.find?_some h
  rw [Bool.and_eq_true, beq_iff_eq] at hp
  exact ⟨List.mem_reverse.1 (List.mem_of_find?_eq_some h), hp⟩

theorem mem_collect_of_kept {c : ModelClass} (h : r.kept? o name = some c) :
    Model.ofClass c name ∈ (r.collect o).models := by
  have hfind : (r.collect o).models.find name =
      (r.kept? o name).map fun c => Model.ofClass c name :=
    Collection.find_ofClasses r.classes
  rw [h, Option.map_some] at hfind
  exact List.mem_of_find?_eq_some hfind

end Registry

end AngularClient
