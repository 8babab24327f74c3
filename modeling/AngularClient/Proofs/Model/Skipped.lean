import AngularClient.Module.Generation
import AngularClient.Proofs.Model.Redeclared

namespace AngularClient

namespace Collection

variable {o : Options}

theorem models_add_congr {col col' : Collection} (h : col'.models = col.models) (c : ModelClass) :
    (col'.add o c).models = (col.add o c).models := by
  simp only [add, note, h]
  split
  · rfl
  · split
    · rfl
    · split <;> rfl

theorem models_ofClasses_retained (classes : List ModelClass) :
    (ofClasses o (classes.filter (·.retained o))).models = (ofClasses o classes).models := by
  induction classes using List.reverseRecOn with
  | nil => rfl
  | append_singleton classes c ih =>
    rw [List.filter_append, ofClasses_append]
    cases hc : c.retained o with
    | false =>
      rw [models_add_of_not_retained _ hc, ← ih]
      simp [hc]
    | true =>
      rw [List.filter_cons_of_pos hc, List.filter_nil, ofClasses_append]
      exact models_add_congr ih c

end Collection

@[simp] theorem ModelClass.not_retained {o : Options} {c : ModelClass}
    (h : c.ctor = none ∨ o.ignores (o.displayName c.name) = true) : c.retained o = false := by
  rw [← Bool.not_eq_true, retained_iff]
  rintro ⟨hctor, hignores⟩
  rcases h with h | h
  · rw [h] at hctor
    cases hctor
  · rw [h] at hignores
    cases hignores

namespace Registry

variable {r s : Registry} {o : Options} {c : ModelClass}

theorem describe_eq_of_retained (hr : (r.classes.map (·.name)).Nodup)
    (hs : (s.classes.map (·.name)).Nodup)
    (h : s.classes.filter (·.retained o) = r.classes.filter (·.retained o)) :
    s.describe o = r.describe o := by
  symm
  apply describe_congr
  · rw [collect, collect, ← Collection.models_ofClasses_retained s.classes, h,
      Collection.models_ofClasses_retained]
  · intro m hm
    obtain ⟨c, hc, hctor, hignores, rfl⟩ := Collection.exists_class_of_mem hm
    have hretained : c.retained o = true :=
      ModelClass.retained_iff.2 ⟨by rwa [Option.isNone_eq_false_iff], hignores⟩
    have hcs : c ∈ s.classes.filter (·.retained o) := by
      rw [h]
      exact List.mem_filter.2 ⟨hc, hretained⟩
    exact ⟨c, c, class?_of_nodup hr hc,
      class?_of_nodup hs (List.mem_of_mem_filter hcs), rfl, rfl, rfl, fun _ => rfl⟩

theorem generate_eq_of_describe (hversion : s.remotingVersion = r.remotingVersion)
    (h : s.describe o = r.describe o) : s.generate o = r.generate o := by
  simp only [generate, view, dialect, hversion, h]

def substitute (r : Registry) (name : String) (replacement : Option ModelClass) : Registry :=
  { r with classes := r.classes.flatMap fun c =>
      if c.name = name then replacement.toList else [c] }

section Substitute

variable {name : String} {replacement : Option ModelClass}

theorem nodup_names_substitute (hr : (r.classes.map (·.name)).Nodup)
    (h : ∀ d ∈ replacement, d.name = name) :
    ((r.substitute name replacement).classes.map (·.name)).Nodup := by
  -- at most one class stands where one stood, and under the same name
  have hmap : (r.substitute name replacement).classes.map (·.name) =
      (r.classes.map (·.name)).filter fun n => n != name || replacement.isSome := by
    simp only [substitute]
    generalize r.classes = classes
    induction classes with
    | nil => rfl
    | cons c classes ih =>
      rw [List.flatMap_cons, List.map_append, ih, List.map_cons, List.filter_cons]
      by_cases hc : c.name = name
      · cases hd : replacement with
        | none => simp [hc]
        | some d => simp [hc, h d hd]
      · simp [hc]
  rw [hmap]
  exact hr.filter _

theorem retained_substitute (hr : (r.classes.map (·.name)).Nodup) (hc : c ∈ r.classes)
    (hskipped : c.retained o = false) (h : ∀ d ∈ replacement, d.retained o = false) :
    (r.substitute c.name replacement).classes.filter (·.retained o) =
      r.classes.filter (·.retained o) := by
  simp only [substitute]
  have hsame : ∀ d ∈ r.classes, d.name = c.name → d.retained o = false := by
    intro d hd hname
    rwa [List.inj_on_of_nodup_map hr hd hc hname]
  clear hr hc
  generalize r.classes = classes at hsame
  induction classes with
  | nil => rfl
  | cons d classes ih =>
    rw [List.forall_mem_cons] at hsame
    rw [List.flatMap_cons, List.filter_append, ih hsame.2, List.filter_cons]
    by_cases hd : d.name = c.name
    · have hnone : replacement.toList.filter (·.retained o) = [] := by
        rw [List.filter_eq_nil_iff]
        intro e he
        rw [h e (Option.mem_toList.1 he)]
        exact Bool.false_ne_true
      rw [if_pos hd, hnone, hsame.1 hd]
      rfl
    · rw [if_neg hd, List.filter_singleton]
      cases d.retained o <;> rfl

end Substitute

/-- A class that does not become a model is without influence: to delete it, or to change all of it
but what makes it skipped, changes neither the models nor the module. -/
theorem skipped_class_without_influence (r : Registry) (o : Options)
    (hnames : (r.classes.map (·.name)).Nodup) (c : ModelClass) (hc : c ∈ r.classes)
    (hskipped : c.ctor = none ∨ o.ignores (o.displayName c.name) = true)
    (replacement : Option ModelClass)
    (hreplacement : ∀ d ∈ replacement, d.name = c.name ∧ d.ctor = c.ctor) :
    (r.substitute c.name replacement).describe o = r.describe o ∧
      (r.substitute c.name replacement).generate o = r.generate o := by
  have hretained : ∀ d ∈ replacement, d.retained o = false := by
    intro d hd
    obtain ⟨hname, hctor⟩ := hreplacement d hd
    apply ModelClass.not_retained
    rwa [hname, hctor]
  have hdescribe : (r.substitute c.name replacement).describe o = r.describe o :=
    describe_eq_of_retained hnames
      (nodup_names_substitute hnames fun d hd => (hreplacement d hd).1)
      (retained_substitute hnames hc (ModelClass.not_retained hskipped) hretained)
  exact ⟨hdescribe, generate_eq_of_describe rfl hdescribe⟩

/-- Albums have tracks, which have no constructor, and whose class leads back to albums. -/
def albums : Registry where
  remotingVersion := 3
  classes := [
    { name := "album"
      ctor := some ⟨none⟩
      description := none
      httpPath := none
      prototypeChain := []
      relations := [("tracks", ⟨some "track", none⟩)]
      exposedMethods := none
      methods := [.served "prototype.__get__tracks" "/albums/:id/tracks"]
      properties := [] },
    { name := "track"
      ctor := none
      description := none
      httpPath := none
      prototypeChain := []
      relations := [("album", ⟨some "album", none⟩)]
      exposedMethods := none
      methods := [.served "prototype.__get__album" "/tracks/:id/album"]
      properties := [] }]

theorem skipped_class_without_influence_albums :
    ∃ c ∈ albums.classes, c.name = "track" ∧ c.ctor = none ∧
      (albums.substitute "track" none).describe .default = albums.describe .default ∧
        (albums.substitute "track" (some { c with exposedMethods := some [], methods := [] })).generate
          .default = albums.generate .default := by
  have hc := List.getElem?_eq_getElem (l := albums.classes) (i := 1) (by decide)
  have hmem := List.mem_of_getElem? hc
  have hnames : (albums.classes.map (·.name)).Nodup := by decide
  refine ⟨_, hmem, rfl, rfl, ?_, ?_⟩
  · exact (skipped_class_without_influence albums .default hnames _ hmem (.inl rfl) none
      fun d hd => nomatch hd).1
  · refine (skipped_class_without_influence albums .default hnames _ hmem (.inl rfl) (some _) ?_).2
    intro d hd
    obtain rfl := Option.some.inj hd
    exact ⟨rfl, rfl⟩

end Registry

end AngularClient
