import AngularClient.Proofs.Relation.AccessorNames

/-! Passes run over a set again and again, in any order.  Reverse methods and twins of one pass are
what the next one works on; still what was decided about a relation stays, method lists only grow,
and a resolved relation leads to a model of the set that has the methods its operations call. -/

namespace AngularClient

inductive Slot.Keeps : Slot → Slot → Prop
  | skipped : Keeps .skipped .skipped
  | resolved {s s' : Scope} (target : s'.target = s.target)
      (keys : s.methods.keys ⊆ s'.methods.keys) : Keeps (.resolved s) (.resolved s')

namespace Slot.Keeps

variable {slot slot' slot'' : Slot}

theorem refl (slot : Slot) : slot.Keeps slot := by
  cases slot with
  | resolved s => exact .resolved rfl (List.Subset.refl _)
  | skipped => exact .skipped

theorem trans (h : slot.Keeps slot') (h' : slot'.Keeps slot'') : slot.Keeps slot'' := by
  cases h with
  | skipped => exact h'
  | resolved target keys =>
    cases h' with
    | resolved target' keys' =>
      exact .resolved (target'.trans target) (List.Subset.trans keys keys')

end Slot.Keeps

namespace Model

def header (m : Model) : Model := { m.frame with schema := none }

structure Grows (m n : Model) : Prop where
  header : n.header = m.header
  methods : m.methods.map (·.name) <+: n.methods.map (·.name)
  slots : ∀ relation slot, m.scopes.find? relation = some slot →
    ∃ slot', n.scopes.find? relation = some slot' ∧ slot.Keeps slot'

theorem getD_scope? {m : Model} {relation target : String} (h : m.Admits relation target) :
    let scope := (m.scope? relation).getD ⟨target, []⟩
    scope.target = target ∧
      (scope.methods = [] ∨ m.scopes.find? relation = some (.resolved scope)) := by
  rcases h with hopen | ⟨s, hs, htarget⟩
  · simp [scope?, hopen]
  · simp [scope?, hs, Slot.scope?, htarget]

namespace Grows

variable {m n n' : Model} {relation : String}

theorem trans (h : m.Grows n) (h' : n.Grows n') : m.Grows n' where
  header := h'.header.trans h.header
  methods := h.methods.trans h'.methods
  slots := by
    intro relation slot hslot
    obtain ⟨slot', hslot', hkeeps⟩ := h.slots relation slot hslot
    obtain ⟨slot'', hslot'', hkeeps'⟩ := h'.slots relation slot' hslot'
    exact ⟨slot'', hslot'', hkeeps.trans hkeeps'⟩

theorem name (h : m.Grows n) : n.name = m.name := by
  have hname := congrArg Model.name h.header
  exact hname

theorem of_scopes (hheader : n.header = m.header)
    (hmethods : m.methods.map (·.name) <+: n.methods.map (·.name)) (hscopes : n.scopes = m.scopes) :
    m.Grows n where
  header := hheader
  methods := hmethods
  slots := by
    intro relation slot hslot
    exact ⟨slot, hscopes ▸ hslot, .refl slot⟩

theorem refl (m : Model) : m.Grows m := of_scopes rfl (List.prefix_refl _) rfl

theorem receive (m : Model) (more : List Method) :
    m.Grows { m with methods := m.methods ++ more } := by
  refine of_scopes rfl ?_ rfl
  rw [List.map_append]
  exact List.prefix_append _ _

theorem insert {slot : Slot}
    (h : ∀ old, m.scopes.find? relation = some old → old.Keeps slot) :
    m.Grows { m with scopes := m.scopes.insert relation slot } where
  header := rfl
  methods := List.prefix_refl _
  slots := by
    intro relation' old hold
    by_cases heq : relation' = relation
    · subst heq
      exact ⟨slot, by simp, h old hold⟩
    · exact ⟨old, by simp [heq, hold], .refl old⟩

theorem augment (r : Registry) (m : Model) : m.Grows (m.augment r) := by
  refine of_scopes rfl ?_ rfl
  simp only [Model.augment, Method.augmentAll, Method.addCreateMany, List.map_append, List.map_map]
  exact List.prefix_append _ _

theorem withSchema (r : Registry) (m : Model) : m.Grows (m.withSchema r) :=
  of_scopes rfl (List.prefix_refl _) rfl

theorem attachTo {rel : RelationMethod} {target : String} (k : Nat) (x : Method)
    (h : m.Admits rel.scope target) : m.Grows (rel.attachTo target k x m) := by
  have hmarked : m.Grows
      { m with methods := m.methods.modify k (·.withInternal (some (rel.note m.name))) } := by
    refine of_scopes rfl ?_ rfl
    have hnames := map_modify (f := (·.withInternal (some (rel.note m.name))))
      (g := Method.name) (fun _ => rfl) m.methods k
    exact hnames ▸ List.prefix_refl _
  refine hmarked.trans (insert ?_)
  intro old hold
  have hold' : m.scopes.find? rel.scope = some old := hold
  obtain hopen | ⟨s, hs, -⟩ := h
  · rw [hopen] at hold'
    cases hold'
  · obtain rfl := Option.some.inj (hs.symm.trans hold')
    have hscope : (m.scope? rel.scope).getD ⟨target, []⟩ = s := by simp [scope?, hs, Slot.scope?]
    rw [hscope]
    refine .resolved rfl ?_
    intro api hapi
    exact RelationMethod.mem_keys_record.2 (.inr hapi)

end Grows

end Model

def Scope.LeadsInto (s : Scope) (set : ModelSet) : Prop :=
  ∃ target ∈ set, target.name = s.target ∧
    ∀ e ∈ s.methods, e.2.name ∈ target.methods.map (·.name)

theorem Scope.LeadsInto.grow {s : Scope} {set later : ModelSet} (h : s.LeadsInto set)
    (hg : List.Forall₂ Model.Grows set later) : s.LeadsInto later := by
  obtain ⟨target, htarget, hname, hmethods⟩ := h
  obtain ⟨target', htarget', hgrows⟩ := exists_of_mem_of_forall₂ hg htarget
  refine ⟨target', htarget', hgrows.name.trans hname, ?_⟩
  intro e he
  exact hgrows.methods.subset (hmethods e he)

namespace ModelSet

structure Linked (set : ModelSet) : Prop where
  distinct : set.names.Nodup
  sorted : ∀ m ∈ set, m.scopes.Sorted
  links : ∀ m ∈ set, ∀ relation s, (relation, .resolved s) ∈ m.scopes → s.LeadsInto set

structure Later (set later : ModelSet) : Prop where
  grows : List.Forall₂ Model.Grows set later
  linked : later.Linked

variable {r : Registry} {o : Options} {set later : ModelSet} {i k : Nat}

theorem headers_of_grows (h : List.Forall₂ Model.Grows set later) :
    later.map Model.header = set.map Model.header := by
  induction h with
  | nil => rfl
  | cons hg _ ih => rw [List.map_cons, List.map_cons, hg.header, ih]

theorem names_of_headers (h : later.map Model.header = set.map Model.header) :
    later.names = set.names := by
  have hnames := congrArg (List.map Model.name) h
  rw [List.map_map, List.map_map] at hnames
  exact hnames

namespace Later

theorem refl (h : set.Linked) : set.Later set :=
  ⟨List.forall₂_same.2 fun m _ => .refl m, h⟩

theorem trans {last : ModelSet} (h : set.Later later) (h' : later.Later last) : set.Later last :=
  ⟨forall₂_trans Model.Grows.trans h.grows h'.grows, h'.linked⟩

theorem of_grows (h : set.Linked) (hg : List.Forall₂ Model.Grows set later)
    (hscopes : ∀ n ∈ later, ∃ m ∈ set, n.scopes = m.scopes ∨ ∃ relation slot,
      n.scopes = m.scopes.insert relation slot ∧
        ∀ s, slot = .resolved s → s.LeadsInto later) : set.Later later where
  grows := hg
  linked := {
    distinct := by
      rw [names_of_headers (headers_of_grows hg)]
      exact h.distinct
    sorted := by
      intro n hn
      obtain ⟨m, hm, heq | ⟨relation, slot, heq, -⟩⟩ := hscopes n hn
      · exact heq ▸ h.sorted m hm
      · exact heq ▸ (h.sorted m hm).insert relation slot
    links := by
      intro n hn relation s hs
      obtain ⟨m, hm, heq | ⟨relation', slot, heq, hslot⟩⟩ := hscopes n hn
      · exact (h.links m hm relation s (heq ▸ hs)).grow hg
      · rw [heq] at hs
        rcases Dictionary.mem_of_mem_insert hs with hnew | hold
        · exact hslot s (congrArg Prod.snd hnew).symm
        · exact (h.links m hm relation s hold).grow hg }

theorem map {f : Model → Model} (h : set.Linked) (hf : ∀ m : Model, m.Grows (f m))
    (hscopes : ∀ m, (f m).scopes = m.scopes) : set.Later (set.map f) := by
  refine of_grows h (List.forall₂_map_right_iff.2 (List.forall₂_same.2 fun m _ => hf m)) ?_
  intro n hn
  obtain ⟨m, hm, rfl⟩ := List.mem_map.1 hn
  exact ⟨m, hm, .inl (hscopes m)⟩

theorem skip {n : Model} {relation : String} (h : set.Linked) (hn : set[i]? = some n)
    (hopen : n.scopes.find? relation = none) :
    set.Later (set.modify i fun m => { m with scopes := m.scopes.insert relation .skipped }) := by
  apply of_grows h
  · apply forall₂_modify_self Model.Grows.refl
    intro m hm
    obtain rfl := Option.some.inj (hn.symm.trans hm)
    apply Model.Grows.insert
    intro old hold
    rw [hopen] at hold
    cases hold
  · intro m hm
    rcases exists_of_mem_modify hm with hm | ⟨n', hn', rfl⟩
    · exact ⟨m, hm, .inl rfl⟩
    · refine ⟨n', List.mem_of_getElem? hn', .inr ⟨relation, .skipped, rfl, ?_⟩⟩
      intro s hs
      cases hs

section Attach

variable {rel : RelationMethod} {n target : Model} {x : Method} {t : Nat}
  (hn : set[i]? = some n) (htarget : set[t]? = some target)
  (hslot : n.Admits rel.scope target.name)

include hn hslot in
theorem grows_attach : List.Forall₂ Model.Grows set (set.attach i k t rel n target x) := by
  refine forall₂_trans Model.Grows.trans (forall₂_modify_self Model.Grows.refl ?_)
    (forall₂_modify_self Model.Grows.refl ?_)
  · intro m hm
    obtain rfl := Option.some.inj (hn.symm.trans hm)
    exact .attachTo k x hslot
  · intro m _
    exact .receive m _

include htarget in
theorem exists_target (i k : Nat) (rel : RelationMethod) (n : Model) (x : Method) :
    ∃ target' ∈ set.attach i k t rel n target x, target'.name = target.name ∧
      ∀ y ∈ rel.reverses n x, y.name ∈ target'.methods.map (·.name) := by
  -- of a self relation the target is attached to before it receives
  have hreceives : ∃ m, (set.modify i (rel.attachTo target.name k x))[t]? = some m ∧
      m.name = target.name := by
    rw [List.getElem?_modify, htarget]
    by_cases h : i = t
    · exact ⟨_, congrArg some (if_pos h), rfl⟩
    · exact ⟨_, congrArg some (if_neg h), rfl⟩
  obtain ⟨m, hm, hname⟩ := hreceives
  have hattach : (set.attach i k t rel n target x)[t]? =
      some { m with methods := m.methods ++ rel.reverses n x } := by
    rw [attach, List.getElem?_modify, hm]
    exact congrArg some (if_pos rfl)
  refine ⟨_, List.mem_of_getElem? hattach, hname, ?_⟩
  intro y hy
  exact List.mem_map_of_mem (List.mem_append_right _ hy)

include hn htarget hslot

theorem leadsInto_attach (h : set.Linked) {s : Scope} (hs : s.target = target.name)
    (hold : s.methods = [] ∨ n.scopes.find? rel.scope = some (.resolved s)) :
    Scope.LeadsInto { s with methods := rel.record n x s.methods }
      (set.attach i k t rel n target x) := by
  have hg := grows_attach (k := k) (t := t) (x := x) hn hslot
  have hdistinct := h.distinct
  rw [← names_of_headers (headers_of_grows hg)] at hdistinct
  obtain ⟨target', hmem, hname, hreverses⟩ := exists_target htarget i k rel n x
  have hrecorded : ∀ e ∈ s.methods, e.2.name ∈ target'.methods.map (·.name) := by
    rcases hold with hnil | hfind
    · simp [hnil]
    · have hmem' := Dictionary.mem_of_find?_eq_some hfind
      obtain ⟨target'', hmem'', hname', hmethods⟩ :=
        (h.links n (List.mem_of_getElem? hn) rel.scope s hmem').grow hg
      have heq : target''.name = target'.name := hname'.trans (hs.trans hname.symm)
      exact List.inj_on_of_nodup_map hdistinct hmem'' hmem heq ▸ hmethods
  refine ⟨target', hmem, hname.trans hs.symm, ?_⟩
  rintro ⟨api, c⟩ he
  rcases RelationMethod.exists_reverse_of_mem_record he with he | ⟨y, hy, rfl⟩
  · exact hrecorded _ he
  · exact hreverses y hy

theorem attach (h : set.Linked) : set.Later (set.attach i k t rel n target x) := by
  apply of_grows h (grows_attach hn hslot)
  intro m hm
  have hreceived : ∃ m' ∈ set.modify i (rel.attachTo target.name k x), m.scopes = m'.scopes := by
    rcases exists_of_mem_modify hm with hm | ⟨m', hm', rfl⟩
    · exact ⟨m, hm, rfl⟩
    · exact ⟨m', List.mem_of_getElem? hm', rfl⟩
  obtain ⟨m', hm', hscopes⟩ := hreceived
  rw [hscopes]
  rcases exists_of_mem_modify hm' with hm' | ⟨source, hsource, rfl⟩
  · exact ⟨m', hm', .inl rfl⟩
  · obtain rfl := Option.some.inj (hn.symm.trans hsource)
    refine ⟨n, List.mem_of_getElem? hn, .inr ⟨rel.scope, _, rfl, ?_⟩⟩
    intro s hs
    obtain rfl := Slot.resolved.inj hs
    obtain ⟨hs, hold⟩ := Model.getD_scope? hslot
    exact leadsInto_attach hn htarget hslot h hs hold

end Attach

theorem resolveMethod (h : set.Linked) : set.Later (resolveMethod r o i k set) := by
  have hstep := methodStep r o i k set
  generalize ModelSet.resolveMethod r o i k set = later at hstep
  cases hstep with
  | pass => exact refl h
  | skip hn hx hrel hc he => exact skip h hn (RelationMethod.find?_of_effect_skip he)
  | attach hn hx hrel hc he htarget =>
    exact attach hn htarget (RelationMethod.admits_of_effect_attach he htarget) h

theorem foldl {α : Type} {f : ModelSet → α → ModelSet} {l : List α}
    (hf : ∀ set : ModelSet, ∀ a ∈ l, set.Linked → set.Later (f set a)) (h : set.Linked) :
    set.Later (l.foldl f set) := by
  induction l generalizing set with
  | nil => exact refl h
  | cons a l ih =>
    have hstep := hf set a List.mem_cons_self h
    exact hstep.trans
      (ih (fun set b hb => hf set b (List.mem_cons_of_mem _ hb)) hstep.linked)

theorem resolveScopes (h : set.Linked) : set.Later (set.resolveScopes r o) := by
  refine foldl (fun set i _ h => ?_) h
  exact foldl (fun set k _ h => resolveMethod h) h

theorem run {p : Pass} (hp : p ≠ .collect) (h : set.Linked) : set.Later (set.run r o p) := by
  cases p with
  | collect => exact absurd rfl hp
  | augment => exact map h (Model.Grows.augment r) fun _ => rfl
  | scopes => exact resolveScopes h
  | schemas => exact map h (Model.Grows.withSchema r) fun _ => rfl

theorem foldl_run (r : Registry) (o : Options) {passes : List Pass} (hpasses : .collect ∉ passes)
    (h : set.Linked) : set.Later (passes.foldl (ModelSet.run r o) set) := by
  refine foldl (fun set p hp h => ?_) h
  exact run (fun heq => hpasses (heq ▸ hp)) h

end Later

end ModelSet

namespace Registry

theorem linked_collect (r : Registry) (o : Options) : (r.collect o).models.Linked where
  distinct := Collection.nodup_names r.classes
  sorted := by
    intro m hm
    obtain ⟨c, -, -, -, rfl⟩ := Collection.exists_class_of_mem hm
    exact .nil
  links := by
    intro m hm relation s hs
    obtain ⟨c, -, -, -, rfl⟩ := Collection.exists_class_of_mem hm
    cases hs

/-- Whatever passes are run over the collected models, the set has these models; its resolved
relations lead to models of the set that have the methods that are called; and passes that are run
after it take back nothing, neither methods nor what was decided about a relation. -/
theorem latched_along_passes (r : Registry) (o : Options) (before after : List Pass)
    (hbefore : .collect ∉ before) (hafter : .collect ∉ after) :
    let set := before.foldl (ModelSet.run r o) (r.collect o).models
    set.map Model.header = (r.collect o).models.map Model.header ∧ set.Linked ∧
      List.Forall₂ Model.Grows set (after.foldl (ModelSet.run r o) set) := by
  intro set
  have hset := ModelSet.Later.foldl_run r o hbefore (linked_collect r o)
  have hlater := ModelSet.Later.foldl_run r o hafter hset.linked
  exact ⟨ModelSet.headers_of_grows hset.grows, hset.linked, hlater.grows⟩

theorem latched_along_passes_parts :
    let set := [.augment, .scopes].foldl (ModelSet.run parts .default)
      (parts.collect .default).models
    set.Linked ∧ ∃ m ∈ set, m.scopes.find? "label" = some .skipped ∧
      ∃ n ∈ [.schemas, .scopes, .augment].foldl (ModelSet.run parts .default) set,
        m.Grows n ∧ n.scopes.find? "label" = some .skipped := by
  intro set
  obtain ⟨-, hlinked, hgrows⟩ := latched_along_passes parts .default [.augment, .scopes]
    [.schemas, .scopes, .augment] (by decide) (by decide)
  have hm := List.getElem?_eq_getElem (l := set) (i := 0) (by decide)
  have hskipped : set[0].scopes.find? "label" = some .skipped := by rfl
  obtain ⟨n, hn, hgrow⟩ := exists_of_mem_of_forall₂ hgrows (List.mem_of_getElem? hm)
  obtain ⟨slot, hslot, hkeeps⟩ := hgrow.slots "label" .skipped hskipped
  cases hkeeps
  exact ⟨hlinked, _, List.mem_of_getElem? hm, hskipped, n, hn, hgrow, hslot⟩

end Registry

end AngularClient
