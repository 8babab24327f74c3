import AngularClient.Proofs.Model.Kept

namespace AngularClient

theorem eraseDups_concat {α : Type} [BEq α] [LawfulBEq α] (l : List α) (a : α) :
    (l ++ [a]).eraseDups = l.eraseDups ++ if a ∈ l then [] else [a] := by
  rw [List.eraseDups_append, List.removeAll, List.filter_singleton]
  by_cases ha : a ∈ l
  · simp [ha]
  · simp [ha, List.eraseDups_cons]

/-- What a class adds where others come before it: the display name of a new model, or a notice.
To be ignored counts before all else. -/
inductive ModelClass.Adds (o : Options) (before : List ModelClass) (c : ModelClass) :
    String ⊕ Notice → Prop
  | model (hretained : c.retained o = true)
      (hnew : ∀ d ∈ before, d.retained o = true → o.displayName d.name ≠ o.displayName c.name) :
      Adds o before c (.inl (o.displayName c.name))
  | ignored (hignored : o.ignores (o.displayName c.name) = true) :
      Adds o before c (.inr (.ignored (o.displayName c.name)))
  | notAModel (hshown : o.ignores (o.displayName c.name) = false) (hctor : c.ctor = none) :
      Adds o before c (.inr (.notAModel c.name))
  | redeclared (hretained : c.retained o = true) {d : ModelClass} (hd : d ∈ before)
      (hd' : d.retained o = true) (hname : o.displayName d.name = o.displayName c.name) :
      Adds o before c (.inr (.redeclared (o.displayName c.name)))

inductive Collection.Accounts (o : Options) : List ModelClass → List (String ⊕ Notice) → Prop
  | nil : Accounts o [] []
  | snoc {classes : List ModelClass} {added : List (String ⊕ Notice)} {c : ModelClass}
      {a : String ⊕ Notice} (h : Accounts o classes added) (ha : c.Adds o classes a) :
      Accounts o (classes ++ [c]) (added ++ [a])

namespace Collection

variable {o : Options} {classes : List ModelClass} {added : List (String ⊕ Notice)} {name : String}

theorem Accounts.length_eq (h : Accounts o classes added) : added.length = classes.length := by
  induction h with
  | nil => rfl
  | snoc _ _ ih => rw [List.length_append, List.length_append, ih]; rfl

theorem length_parts {α β : Type} (l : List (α ⊕ β)) :
    l.length = (l.filterMap Sum.getLeft?).length + (l.filterMap Sum.getRight?).length := by
  induction l with
  | nil => rfl
  | cons s l ih =>
    rw [List.length_cons, ih]
    cases s with
    | inl a => simp only [List.filterMap_cons, Sum.getLeft?, Sum.getRight?, List.length_cons]; omega
    | inr b => simp only [List.filterMap_cons, Sum.getLeft?, Sum.getRight?, List.length_cons]; omega

theorem exists_adds (col : Collection) (before : List ModelClass) (c : ModelClass)
    (hnames : ∀ name, name ∈ col.models.names ↔
      ∃ d ∈ before, d.retained o = true ∧ o.displayName d.name = name) :
    ∃ a, c.Adds o before a ∧
      (col.add o c).models.names = col.models.names ++ a.getLeft?.toList ∧
      (col.add o c).notices = col.notices ++ a.getRight?.toList := by
  simp only [add]
  split
  · next hignored => exact ⟨_, .ignored hignored, by simp [note], by simp [note]⟩
  · next hshown =>
    rw [Bool.not_eq_true] at hshown
    split
    · next hctor =>
      rw [Option.isNone_iff_eq_none] at hctor
      exact ⟨_, .notAModel hshown hctor, by simp [note], by simp [note]⟩
    · next hctor =>
      have hretained : c.retained o = true :=
        ModelClass.retained_iff.2 ⟨Bool.eq_false_iff.2 hctor, hshown⟩
      have hany : (col.models.any (·.name == o.displayName c.name)) = true ↔
          o.displayName c.name ∈ col.models.names := by simp [ModelSet.names]
      split
      · next htaken =>
        obtain ⟨d, hd, hd', hname⟩ := (hnames _).1 (hany.1 htaken)
        have hreplaced := names_replace col.models
          (Model.name_ofClass c (o.displayName c.name))
        exact ⟨_, .redeclared hretained hd hd' hname, by simpa using hreplaced, rfl⟩
      · next hfree =>
        refine ⟨_, .model hretained ?_, by simp [ModelSet.names], by simp⟩
        intro d hd hd' hname
        exact hfree (hany.2 ((hnames _).2 ⟨d, hd, hd', hname⟩))

def retainedNames (o : Options) (classes : List ModelClass) : List String :=
  (classes.filter (·.retained o)).map fun c => o.displayName c.name

@[simp] theorem mem_retainedNames : name ∈ retainedNames o classes ↔
    ∃ d ∈ classes, d.retained o = true ∧ o.displayName d.name = name := by
  simp only [retainedNames, List.mem_map, List.mem_filter, and_assoc]

theorem eraseDups_retainedNames_concat {c : ModelClass} {a : String ⊕ Notice}
    (ha : c.Adds o classes a) : (retainedNames o (classes ++ [c])).eraseDups =
      (retainedNames o classes).eraseDups ++ a.getLeft?.toList := by
  have hskipped (h : c.retained o = false) :
      retainedNames o (classes ++ [c]) = retainedNames o classes := by
    simp [retainedNames, h]
  have hretained (h : c.retained o = true) :
      retainedNames o (classes ++ [c]) = retainedNames o classes ++ [o.displayName c.name] := by
    simp [retainedNames, h]
  cases ha with
  | model h hnew =>
    have hfree : o.displayName c.name ∉ retainedNames o classes := by
      rw [mem_retainedNames]
      rintro ⟨d, hd, hd', hname⟩
      exact hnew d hd hd' hname
    rw [hretained h, eraseDups_concat, if_neg hfree]
    rfl
  | ignored h => simp [hskipped, ModelClass.retained, h]
  | notAModel _ h => simp [hskipped, ModelClass.retained, h]
  | redeclared h hd hd' hname =>
    rw [hretained h, eraseDups_concat, if_pos (mem_retainedNames.2 ⟨_, hd, hd', hname⟩)]
    rfl

theorem exists_accounts (classes : List ModelClass) : ∃ added, Accounts o classes added ∧
    (ofClasses o classes).models.names = added.filterMap Sum.getLeft? ∧
    (ofClasses o classes).notices = added.filterMap Sum.getRight? ∧
    (ofClasses o classes).models.names = (retainedNames o classes).eraseDups := by
  induction classes using List.reverseRecOn with
  | nil => exact ⟨[], .nil, rfl, rfl, rfl⟩
  | append_singleton classes c ih =>
    obtain ⟨added, hadded, hmodels, hnotices, hnames⟩ := ih
    have hmem (name : String) : name ∈ (ofClasses o classes).models.names ↔
        ∃ d ∈ classes, d.retained o = true ∧ o.displayName d.name = name := by
      rw [hnames, List.mem_eraseDups, mem_retainedNames]
    obtain ⟨a, ha, hmodels', hnotices'⟩ := exists_adds (ofClasses o classes) classes c hmem
    refine ⟨added ++ [a], hadded.snoc ha, ?_, ?_, ?_⟩
    · rw [ofClasses_append, hmodels', hmodels, List.filterMap_append]
      cases a <;> rfl
    · rw [ofClasses_append, hnotices', hnotices, List.filterMap_append]
      cases a <;> rfl
    · rw [ofClasses_append, hmodels', hnames, eraseDups_retainedNames_concat ha]

theorem kept?_eq_some_iff {c : ModelClass} : kept? o classes name = some c ↔
    ∃ before after, classes = before ++ c :: after ∧ c.retained o = true ∧
      o.displayName c.name = name ∧
        ∀ d ∈ after, d.retained o = true → o.displayName d.name ≠ name := by
  rw [kept?, List.find?_eq_some_iff_append]
  constructor
  · rintro ⟨hc, after, before, hsplit, hafter⟩
    rw [Bool.and_eq_true, beq_iff_eq] at hc
    refine ⟨before.reverse, after.reverse, ?_, hc.1, hc.2, ?_⟩
    · rw [← List.reverse_inj, hsplit]
      simp
    · intro d hd hretained hname
      have hfails := hafter d (List.mem_reverse.1 hd)
      simp [hretained, hname] at hfails
  · rintro ⟨before, after, rfl, hretained, hname, hafter⟩
    refine ⟨by simp [hretained, hname], after.reverse, before.reverse, by simp, ?_⟩
    intro d hd
    have hd' := hafter d (List.mem_reverse.1 hd)
    cases h : d.retained o
    · simp
    · simpa using hd' h

end Collection

namespace Registry

/-- Collecting accounts for every class.  Each adds a new model or gives one notice, in the order of
the classes; the names of the models are those of retained classes, each where it comes first, and
the model of a name is described from the last retained class that has it. -/
theorem classes_accounted_for (r : Registry) (o : Options) :
    (r.collect o).models.names.Nodup ∧
      (r.collect o).models.names =
        ((r.classes.filter (·.retained o)).map fun c => o.displayName c.name).eraseDups ∧
      (∀ m ∈ (r.collect o).models, ∃ before c after, r.classes = before ++ c :: after ∧
        c.retained o = true ∧ o.displayName c.name = m.name ∧
        (∀ d ∈ after, d.retained o = true → o.displayName d.name ≠ m.name) ∧
        m = Model.ofClass c m.name) ∧
      (∃ added, Collection.Accounts o r.classes added ∧
        (r.collect o).models.names = added.filterMap Sum.getLeft? ∧
        r.notices o = added.filterMap Sum.getRight?) ∧
      r.classes.length = (r.collect o).models.length + (r.notices o).length ∧
      ∀ n ∈ r.notices o, n.severity = .error ↔ ∃ declared, n = .notAModel declared := by
  obtain ⟨added, hadded, hmodels, hnotices, hnames⟩ := Collection.exists_accounts (o := o) r.classes
  refine ⟨Collection.nodup_names r.classes, hnames, ?_, ⟨added, hadded, hmodels, hnotices⟩, ?_, ?_⟩
  · intro m hm
    obtain ⟨c, hc, hmodel⟩ := Collection.exists_kept_of_mem hm
    obtain ⟨before, after, hsplit, hretained, hname, hafter⟩ := Collection.kept?_eq_some_iff.1 hc
    exact ⟨before, c, after, hsplit, hretained, hname, hafter, hmodel⟩
  · have hlength : (r.collect o).models.length = (added.filterMap Sum.getLeft?).length := by
      rw [← hmodels, ModelSet.names, List.length_map]
      rfl
    have hcount : (r.notices o).length = (added.filterMap Sum.getRight?).length := by
      rw [← hnotices]
      rfl
    rw [hlength, hcount, ← Collection.length_parts, hadded.length_eq]
  · intro n _
    cases n <;> simp [Notice.severity]

/-- Two declarations of notes, of which only the last one says what a note is, with a class between
them that has no constructor; audits are to be ignored and have none either. -/
def drafts : Registry where
  remotingVersion := 3
  classes :=
    let plain (name : String) (ctor : Option Constructor) (description : Option String) :
        ModelClass :=
      { name := name
        ctor := ctor
        description := description.map .text
        httpPath := none
        prototypeChain := []
        relations := []
        exposedMethods := none
        methods := []
        properties := [] }
    [plain "note" (some ⟨none⟩) none, plain "helper" none none, plain "tag" (some ⟨none⟩) none,
      plain "Note" (some ⟨none⟩) (some "Kept."), plain "audit" none none]

theorem classes_accounted_for_drafts :
    let o := { Options.default with modelsToIgnore := ["Audit"] }
    (drafts.collect o).models.names = ["Note", "Tag"] ∧
      drafts.notices o = [.notAModel "helper", .redeclared "Note", .ignored "Audit"] ∧
      ∃ m ∈ (drafts.collect o).models, m.name = "Note" ∧ ∃ before c after,
        drafts.classes = before ++ c :: after ∧ c.retained o = true ∧
          o.displayName c.name = m.name ∧
          (∀ d ∈ after, d.retained o = true → o.displayName d.name ≠ m.name) ∧
          m = Model.ofClass c m.name ∧ c.name = "Note" ∧ m.description = "Kept." := by
  intro o
  obtain ⟨-, hnames, hlast, -⟩ := classes_accounted_for drafts o
  have hm := List.getElem?_eq_getElem (l := (drafts.collect o).models) (i := 0) (by decide)
  have hmem := List.mem_of_getElem? hm
  obtain ⟨before, c, after, hsplit, hretained, hname, hafter, hmodel⟩ := hlast _ hmem
  refine ⟨hnames.trans (by decide), by decide, _, hmem, by decide, before, c, after, hsplit,
    hretained, hname, hafter, hmodel, ?_, by decide⟩
  exact (congrArg Model.declaredName hmodel).symm.trans (by decide)

end Registry

end AngularClient
