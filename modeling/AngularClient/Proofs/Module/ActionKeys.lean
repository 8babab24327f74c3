import AngularClient.Proofs.Module.Keys
import AngularClient.Proofs.Relation.Homonyms
import AngularClient.Proofs.Text.Case
import Mathlib.Data.List.Perm.Basic

namespace AngularClient

section Key

variable {s t : String}

@[simp] theorem toList_actionKey (s : String) :
    (actionKey s).toList = s.toList.map fun c => if c = '.' then '$' else c := by
  rw [actionKey, String.toList_ofList]

@[simp] theorem actionKey_append : actionKey (s ++ t) = actionKey s ++ actionKey t := by
  rw [← String.toList_inj]
  simp only [toList_actionKey, String.toList_append, List.map_append]

@[simp] theorem mem_actionKey_iff {c : Char} (hdot : c ≠ '.') (hdollar : c ≠ '$') :
    c ∈ (actionKey s).toList ↔ c ∈ s.toList := by
  rw [toList_actionKey, List.mem_map]
  constructor
  · rintro ⟨d, hd, rfl⟩
    split at hdollar
    · exact absurd rfl hdollar
    · next h => rwa [if_neg h]
  · intro h
    exact ⟨c, h, if_neg hdot⟩

theorem actionKey_eq_iff {name : String} (hdot : '.' ∉ name.toList) (hdollar : '$' ∉ name.toList) :
    actionKey s = name ↔ s = name := by
  constructor
  · rintro rfl
    rw [eq_comm]
    apply actionKey_eq_self
    intro h
    apply hdollar
    rw [toList_actionKey]
    exact List.mem_map.2 ⟨'.', h, rfl⟩
  · rintro rfl
    exact actionKey_eq_self hdot

@[simp]
theorem mem_map_actionKey_iff {name : String} {names : List String} (hdot : '.' ∉ name.toList)
    (hdollar : '$' ∉ name.toList) : name ∈ names.map actionKey ↔ name ∈ names := by
  simp only [List.mem_map, actionKey_eq_iff hdot hdollar, exists_eq_right]

theorem nodup_ownKeys_iff {names : List String} (user : Bool) (h : (names.map actionKey).Nodup) :
    ((names ++ if "create" ∈ names then ["createMany"] else []).map actionKey ++
        if user then ["getCurrent"] else []).Nodup ↔
      ("create" ∈ names → "createMany" ∉ names) ∧ (user = true → "getCurrent" ∉ names) := by
  have hconcat : ∀ {l : List String} {s : String}, (l ++ [s]).Nodup ↔ s ∉ l ∧ l.Nodup := by
    intro l s
    rw [← List.concat_eq_append, List.nodup_concat]
  have hmany : "createMany" ∈ names.map actionKey ↔ "createMany" ∈ names :=
    mem_map_actionKey_iff (by decide) (by decide)
  have htwin : ((names ++ if "create" ∈ names then ["createMany"] else []).map actionKey).Nodup ↔
      ("create" ∈ names → "createMany" ∉ names) := by
    have hself : actionKey "createMany" = "createMany" := actionKey_eq_self (by decide)
    rw [List.map_append]
    by_cases hcreate : "create" ∈ names
    · rw [if_pos hcreate, List.map_singleton, hself, hconcat, hmany, and_iff_left h,
        forall_prop_of_true hcreate]
    · rw [if_neg hcreate, List.map_nil, List.append_nil]
      exact iff_of_true h fun h => absurd h hcreate
  have hcurrent : "getCurrent" ∈
      (names ++ if "create" ∈ names then ["createMany"] else []).map actionKey ↔
        "getCurrent" ∈ names := by
    rw [mem_map_actionKey_iff (by decide) (by decide), List.mem_append, or_iff_left]
    split <;> simp
  rw [← htwin]
  cases user with
  | false => simp
  | true => rw [if_pos rfl, hconcat, hcurrent, forall_prop_of_true rfl, and_comm]

theorem eq_of_mem_create {c : Char} (hc : c ∈ "create".toList) (a : Char) :
    (if a = '.' then '$' else a) = c ↔ a = c := by
  have hdot : c ≠ '.' := ne_of_mem_of_not_mem hc (by decide)
  have hdollar : c ≠ '$' := ne_of_mem_of_not_mem hc (by decide)
  split
  · next h =>
    rw [h]
    exact iff_of_false hdollar.symm hdot.symm
  · exact Iff.rfl

@[simp] theorem mentionsCreate_actionKey (s : String) :
    mentionsCreate (actionKey s) = mentionsCreate s := by
  rw [mentionsCreate, mentionsCreate, Text.occursIn, Text.occursIn, toList_actionKey,
    Text.cut?_map fun _ => eq_of_mem_create, Option.isSome_map]

theorem actionKey_toCreateMany (s : String) :
    actionKey (toCreateMany s) = toCreateMany (actionKey s) := by
  rw [← String.toList_inj, toList_actionKey, toList_toCreateMany, toList_toCreateMany,
    toList_actionKey, Text.replaceFirst_map fun _ => eq_of_mem_create]
  decide

@[simp] theorem actionKey_spell (op model relation : String) :
    actionKey (spell op model relation) =
      spell (actionKey op) (actionKey model) (actionKey relation) := by
  have hcolons : actionKey "::" = "::" := actionKey_eq_self (by decide)
  simp only [spell, actionKey_append, hcolons]

end Key

/-- A list of values, some of them with a twin, has none twice if the values have not and if no twin
is a value.  Twins can be left alone where they tell the values apart. -/
theorem nodup_flatMap_twin_iff {α β : Type} {l : List α} {f g : α → β} {c : α → Bool}
    (hg : ∀ p ∈ l, ∀ q ∈ l, c p = true → c q = true → g p = g q → f p = f q) :
    (l.flatMap fun p => f p :: if c p then [g p] else []).Nodup ↔
      (l.map f).Nodup ∧ ∀ p ∈ l, c p = true → ∀ q ∈ l, g p ≠ f q := by
  have hfilter : (l.flatMap fun p => if c p then [g p] else []) = (l.filter c).map g := by
    clear hg
    induction l with
    | nil => rfl
    | cons p l ih =>
      rw [List.flatMap_cons, ih, List.filter_cons]
      split <;> rfl
  rw [← (List.map_append_flatMap_perm l f _).nodup_iff, hfilter, List.nodup_append]
  constructor
  · rintro ⟨hf, -, hdisjoint⟩
    refine ⟨hf, ?_⟩
    intro p hp hc q hq heq
    exact hdisjoint (f q) (List.mem_map_of_mem hq) (g p)
      (List.mem_map_of_mem (List.mem_filter.2 ⟨hp, hc⟩)) heq.symm
  · rintro ⟨hf, htwins⟩
    refine ⟨hf, ?_, ?_⟩
    · rw [List.Nodup, List.pairwise_map] at hf ⊢
      refine (hf.filter c).imp_of_mem ?_
      intro p q hp hq hne heq
      rw [List.mem_filter] at hp hq
      exact hne (hg p hp.1 q hq.1 hp.2 hq.2 heq)
    · intro a ha b hb
      obtain ⟨q, hq, rfl⟩ := List.mem_map.1 ha
      obtain ⟨p, hp, rfl⟩ := List.mem_map.1 hb
      rw [List.mem_filter] at hp
      exact (htwins p hp.1 hp.2 q hq).symm

namespace Source

structure SameKey (p q : Source) : Prop where
  op : actionKey p.rel.op = actionKey q.rel.op
  model : actionKey (Text.lower p.model.declaredName) = actionKey (Text.lower q.model.declaredName)
  scope : actionKey p.rel.scope = actionKey q.rel.scope

/-- A twin that is spelled in keys like a reverse method.  It is for many by its operation or, where
neither that nor the model mentions `create`, by the relation. -/
def TwinsKey (p q : Source) : Prop :=
  actionKey (Text.lower p.model.declaredName) = actionKey (Text.lower q.model.declaredName) ∧
    (mentionsCreate p.rel.op = true ∧ actionKey (toCreateMany p.rel.op) = actionKey q.rel.op ∧
        actionKey p.rel.scope = actionKey q.rel.scope ∨
      mentionsCreate p.rel.op = false ∧ mentionsCreate (Text.lower p.model.declaredName) = false ∧
        mentionsCreate p.rel.scope = true ∧ actionKey p.rel.op = actionKey q.rel.op ∧
        actionKey (toCreateMany p.rel.scope) = actionKey q.rel.scope)

structure Colonless (p : Source) : Prop where
  op : ':' ∉ p.rel.op.toList
  scope : ':' ∉ p.rel.scope.toList

variable {p q p' q' : Source}

theorem Shown.sameKey (h : p.Shown p') (h' : q.Shown q') : p'.SameKey q' ↔ p.SameKey q := by
  constructor
  · intro hkey
    obtain ⟨hop, hmodel, hscope⟩ := hkey
    rw [h.rel, h'.rel] at hop hscope
    rw [h.declaredName, h'.declaredName] at hmodel
    exact ⟨hop, hmodel, hscope⟩
  · intro hkey
    obtain ⟨hop, hmodel, hscope⟩ := hkey
    rw [← h.rel, ← h'.rel] at hop hscope
    rw [← h.declaredName, ← h'.declaredName] at hmodel
    exact ⟨hop, hmodel, hscope⟩

theorem Shown.twinsKey (h : p.Shown p') (h' : q.Shown q') : p'.TwinsKey q' ↔ p.TwinsKey q := by
  rw [TwinsKey, TwinsKey, h.rel, h'.rel, h.declaredName, h'.declaredName]

theorem actionKey_reverseName (p : Source) : actionKey p.reverseName =
    spell (actionKey p.rel.op) (actionKey (Text.lower p.model.declaredName))
      (actionKey p.rel.scope) := actionKey_spell ..

theorem not_mem_key {s : String} (h : ':' ∉ s.toList) : ':' ∉ (actionKey s).toList := by
  rwa [mem_actionKey_iff (by decide) (by decide)]

theorem key_eq_iff (hp : p.Colonless) (hq : q.Colonless) :
    actionKey p.reverseName = actionKey q.reverseName ↔ p.SameKey q := by
  rw [actionKey_reverseName, actionKey_reverseName, spell_inj (not_mem_key hp.op)
    (not_mem_key hq.op) (not_mem_key hp.scope) (not_mem_key hq.scope)]
  constructor
  · rintro ⟨hop, hmodel, hscope⟩
    exact ⟨hop, hmodel, hscope⟩
  · rintro ⟨hop, hmodel, hscope⟩
    exact ⟨hop, hmodel, hscope⟩

theorem toCreateMany_ne_lower {s t : String} (h : mentionsCreate s = true) :
    actionKey (toCreateMany s) ≠ actionKey (Text.lower t) := by
  intro heq
  have hmem : 'M' ∈ (actionKey (toCreateMany s)).toList := by
    rw [mem_actionKey_iff (by decide) (by decide)]
    exact mem_toCreateMany (by decide) h
  rw [heq, mem_actionKey_iff (by decide) (by decide)] at hmem
  exact absurd (Text.isUpper_of_mem_lower hmem) (by decide)

theorem twin_key_eq_iff (hp : p.Colonless) (hq : q.Colonless) :
    mentionsCreate p.reverseName = true ∧
      actionKey (toCreateMany p.reverseName) = actionKey q.reverseName ↔ p.TwinsKey q := by
  have hspell : p.reverseName =
      spell p.rel.op (Text.lower p.model.declaredName) p.rel.scope := rfl
  have hop := not_mem_key hq.op
  have hscope := not_mem_key hq.scope
  rw [TwinsKey, hspell, mentionsCreate_spell, toCreateMany_spell, actionKey_reverseName]
  cases hc : mentionsCreate p.rel.op with
  | true =>
    have hmany := not_mem_key (not_mem_toCreateMany (by decide) hp.op)
    rw [if_pos rfl, actionKey_spell, spell_inj hmany hop (not_mem_key hp.scope) hscope]
    simp only [Bool.true_or, true_and, Bool.true_eq_false, false_and, or_false]
    exact and_left_comm
  | false =>
    rw [if_neg Bool.false_ne_true]
    cases hl : mentionsCreate (Text.lower p.model.declaredName) with
    | true =>
      rw [if_pos rfl, actionKey_spell,
        spell_inj (not_mem_key hp.op) hop (not_mem_key hp.scope) hscope]
      simp [toCreateMany_ne_lower hl]
    | false =>
      have hmany := not_mem_key (not_mem_toCreateMany (by decide) hp.scope)
      rw [if_neg Bool.false_ne_true, actionKey_spell,
        spell_inj (not_mem_key hp.op) hop hmany hscope]
      simp only [Bool.false_or, Bool.false_eq_true, false_and, false_or, true_and]
      constructor
      · rintro ⟨hs, hops, hmodels, hscopes⟩
        exact ⟨hmodels, hs, hops, hscopes⟩
      · rintro ⟨hmodels, hs, hops, hscopes⟩
        exact ⟨hs, hops, hmodels, hscopes⟩

/-- Among the keys of all reverse methods it is enough to look at those that are no twins, and at
what twins have in common with them. -/
theorem nodup_keys_iff {sources : List Source} (h : ∀ p ∈ sources, p.Colonless)
    (hdistinct : sources.Nodup) :
    (sources.flatMap fun p => p.names.map actionKey).Nodup ↔
      (∀ p ∈ sources, ∀ q ∈ sources, p.SameKey q → p = q) ∧
        ∀ p ∈ sources, ∀ q ∈ sources, ¬ p.TwinsKey q := by
  have hnames : (fun p : Source => p.names.map actionKey) = fun p => actionKey p.reverseName ::
      if mentionsCreate p.reverseName then [actionKey (toCreateMany p.reverseName)] else [] := by
    funext p
    rw [names, List.map_cons]
    split <;> rfl
  rw [hnames, nodup_flatMap_twin_iff, List.nodup_map_iff_inj_on hdistinct]
  · refine and_congr (forall₂_congr fun p hp => forall₂_congr fun q hq => ?_)
      (forall₂_congr fun p hp => ?_)
    · rw [key_eq_iff (h p hp) (h q hq)]
    · constructor
      · intro hne q hq htwins
        obtain ⟨hc, heq⟩ := (twin_key_eq_iff (h p hp) (h q hq)).2 htwins
        exact hne hc q hq heq
      · intro htwins hc q hq heq
        exact htwins q hq ((twin_key_eq_iff (h p hp) (h q hq)).1 ⟨hc, heq⟩)
  · intro p _ q _ hp hq heq
    rw [actionKey_toCreateMany, actionKey_toCreateMany] at heq
    rw [← mentionsCreate_actionKey] at hp hq
    exact toCreateMany_inj hp hq heq

end Source

namespace Method

variable {accepts : Option (List Parameter)} {methods : List Method}

theorem map_name_createTwin? (h : (methods.map (·.name)).Nodup) :
    (createTwin? methods).toList.map (·.name) =
      if "create" ∈ methods.map (·.name) then ["createMany"] else [] := by
  have hfilter : ∀ x,
      x ∈ methods.filter (·.name == "create") ↔ x ∈ methods ∧ x.name = "create" := by
    intro x
    rw [List.mem_filter, beq_iff_eq]
  have hnodup := h.sublist (List.filter_sublist (p := (·.name == "create")).map _)
  unfold createTwin?
  cases hf : methods.filter (·.name == "create") with
  | nil =>
    rw [if_neg]
    · rfl
    · intro hmem
      obtain ⟨x, hx⟩ := List.mem_map.1 hmem
      rw [← hfilter, hf] at hx
      cases hx
  | cons x rest =>
    have hx := (hfilter x).1 (by rw [hf]; exact List.mem_cons_self)
    cases rest with
    | nil =>
      rw [if_pos (List.mem_map.2 ⟨x, hx⟩)]
      rfl
    | cons y rest =>
      have hy := (hfilter y).1 (by rw [hf]; exact List.mem_cons_of_mem _ List.mem_cons_self)
      rw [hf, List.map_cons, List.map_cons, hx.2, hy.2] at hnodup
      exact absurd hnodup (by simp)

theorem map_name_augmentAll (h : (methods.map (·.name)).Nodup) :
    (augmentAll accepts methods).map (·.name) = methods.map (·.name) ++
      if "create" ∈ methods.map (·.name) then ["createMany"] else [] := by
  have hnames : (methods.map (augment accepts)).map (·.name) = methods.map (·.name) := by
    rw [List.map_map]
    rfl
  rw [augmentAll, addCreateMany, List.map_append, map_name_createTwin? (by rwa [hnames]), hnames]

end Method

namespace Model

variable {r : Registry} {o : Options} {base : ModelSet} {m : Model} {k : Nat}

@[simp]
theorem map_name_ownMethods : (m.ownMethods r o base k).map (·.name) = m.methods.map (·.name) := by
  apply List.ext_getElem?
  intro j
  rw [List.getElem?_map, List.getElem?_map, getElem?_ownMethods, Option.map_map]
  congr 1
  funext x
  rw [Function.comp_apply]
  split
  · exact name_marked
  · rfl

theorem nodup_attachments (h : m.Distinct r o base) : (m.attachments r o base k).Nodup := by
  refine List.Nodup.filterMap ?_ List.nodup_range
  intro j j' a ha ha'
  exact h j j' a a ha ha' rfl

end Model

namespace Registry

variable {r : Registry} {o : Options} {m n : Model} {p q : Source} {c : ModelClass}
  {target : String}

theorem exists_class_of_mem_unresolved (hnames : ∀ c ∈ r.classes, (c.methods.map (·.name)).Nodup)
    (hm : m ∈ r.unresolved o) : ∃ c ∈ r.classes, m.declaredName = c.name ∧
      m.methods.map (·.name) = c.methods.map (·.name) ++
        if "create" ∈ c.methods.map (·.name) then ["createMany"] else [] := by
  obtain ⟨m', hm', rfl⟩ := List.mem_map.1 hm
  obtain ⟨c, hc, -, -, rfl⟩ := Collection.exists_class_of_mem hm'
  have hmap : (c.methods.map (Method.ofRemote · (o.displayName c.name))).map (·.name) =
      c.methods.map (·.name) := by
    rw [List.map_map]
    rfl
  have hnodup := hnames c hc
  rw [← hmap] at hnodup
  refine ⟨c, hc, rfl, ?_⟩
  rw [← hmap]
  exact Method.map_name_augmentAll hnodup

theorem nodup_sources (hnames : ∀ c ∈ r.classes, (c.methods.map (·.name)).Nodup) :
    ((r.unresolved o).sources r o target).Nodup := by
  refine List.nodup_flatMap.2 ⟨?_, ?_⟩
  · intro m hm
    have hdistinct := distinct_unresolved (o := o) hnames hm
    refine List.Nodup.map_on ?_ ((Model.nodup_attachments hdistinct).filter _)
    intro a ha b hb hab
    obtain ⟨j, -, hj⟩ := Model.mem_attachments.1 (List.mem_of_mem_filter ha)
    obtain ⟨k, -, hk⟩ := Model.mem_attachments.1 (List.mem_of_mem_filter hb)
    obtain rfl := hdistinct j k a b hj hk (Source.mk.inj hab).2.1
    exact Option.some.inj (hj.symm.trans hk)
  · have hpairwise := List.pairwise_map.1 (fresh_unresolved r o).distinct
    refine hpairwise.imp ?_
    intro m m' hne p hp hp'
    obtain ⟨a, -, rfl⟩ := List.mem_map.1 hp
    obtain ⟨b, -, hb⟩ := List.mem_map.1 hp'
    exact hne (congrArg Model.name (Source.mk.inj hb).1).symm

section Keys

variable (hkeys : ∀ c ∈ r.classes, (c.methods.map (actionKey ·.name)).Nodup)
include hkeys

theorem nodup_names_of_keys : ∀ c ∈ r.classes, (c.methods.map (·.name)).Nodup := by
  intro c hc
  have h := hkeys c hc
  have hmap : c.methods.map (actionKey ·.name) = (c.methods.map (·.name)).map actionKey := by
    rw [List.map_map]
    rfl
  rw [hmap] at h
  exact h.of_map

theorem exists_declared_of_mem_sources (hp : p ∈ (r.unresolved o).sources r o target) :
    ∃ c ∈ r.classes, p.model.declaredName = c.name ∧ p.method.name ∈ c.methods.map (·.name) ∧
      RelationMethod.parse? p.method.name = some p.rel := by
  obtain ⟨hm, k, a, ha, -, hrel, hmethod⟩ := ModelSet.mem_sources.1 hp
  obtain ⟨hx, hparsed, -⟩ := Model.attachment?_eq_some_iff.1 ha
  rw [hmethod] at hx
  rw [hmethod, hrel] at hparsed
  obtain ⟨c, hc, hdeclared, hnames⟩ :=
    exists_class_of_mem_unresolved (nodup_names_of_keys hkeys) hm
  refine ⟨c, hc, hdeclared, ?_, hparsed⟩
  have hmem := List.mem_map_of_mem (f := (·.name)) (List.mem_of_getElem? hx)
  rw [hnames, List.mem_append] at hmem
  rcases hmem with hmem | hmem
  · exact hmem
  · have hmany : p.method.name = "createMany" := by
      split at hmem
      · exact List.mem_singleton.1 hmem
      · cases hmem
    have hnone : RelationMethod.parse? "createMany" = none := by decide
    rw [hmany, hnone] at hparsed
    cases hparsed

theorem colonless_of_mem_sources (hcolon : ∀ c ∈ r.classes, ∀ x ∈ c.methods, ':' ∉ x.name.toList)
    (hp : p ∈ (r.unresolved o).sources r o target) : p.Colonless := by
  obtain ⟨c, hc, -, hmem, hparsed⟩ := exists_declared_of_mem_sources hkeys hp
  obtain ⟨x, hx, hname⟩ := List.mem_map.1 hmem
  have hnot := hcolon c hc x hx
  rw [hname, RelationMethod.name_of_parse? hparsed, RelationMethod.name] at hnot
  simp only [String.toList_append, List.mem_append, not_or] at hnot
  exact ⟨hnot.1.1.2, hnot.2⟩

theorem eq_of_sameKey (hclasses : (r.classes.map (·.name)).Nodup)
    (hp : p ∈ (r.unresolved o).sources r o target) (hq : q ∈ (r.unresolved o).sources r o target)
    (hkey : p.SameKey q) (hname : p.model.name = q.model.name) : p = q := by
  obtain ⟨hm, j, a, ha, -, harel, hamethod⟩ := ModelSet.mem_sources.1 hp
  obtain ⟨hm', k, b, hb, -, hbrel, hbmethod⟩ := ModelSet.mem_sources.1 hq
  have hmodel : p.model = q.model :=
    List.inj_on_of_nodup_map (fresh_unresolved r o).distinct hm hm' hname
  obtain ⟨c, hc, hdeclared, hmem, hparsed⟩ := exists_declared_of_mem_sources hkeys hp
  obtain ⟨d, hd, hdeclared', hmem', hparsed'⟩ := exists_declared_of_mem_sources hkeys hq
  obtain rfl : c = d := List.inj_on_of_nodup_map hclasses hc hd
    (hdeclared.symm.trans ((congrArg Model.declaredName hmodel).trans hdeclared'))
  obtain ⟨x, hx, hxname⟩ := List.mem_map.1 hmem
  obtain ⟨y, hy, hyname⟩ := List.mem_map.1 hmem'
  have hkeyname : actionKey x.name = actionKey y.name := by
    rw [hxname, hyname, RelationMethod.name_of_parse? hparsed,
      RelationMethod.name_of_parse? hparsed', RelationMethod.name, RelationMethod.name]
    simp only [actionKey_append, hkey.op, hkey.scope]
  obtain rfl := List.inj_on_of_nodup_map (hkeys c hc) hx hy hkeyname
  have hrel : p.rel = q.rel := by
    rw [← hxname, hyname, hparsed'] at hparsed
    exact (Option.some.inj hparsed).symm
  rw [← hmodel] at hb
  obtain rfl := distinct_unresolved (nodup_names_of_keys hkeys) hm j k a b ha hb
    (harel.trans (hrel.trans hbrel.symm))
  have hmethod : p.method = q.method := by
    rw [← hamethod, ← hbmethod, Option.some.inj (ha.symm.trans hb)]
  cases p
  cases q
  cases hmodel
  cases hrel
  cases hmethod
  rfl

end Keys

theorem mem_of_mem_reverseKeys {sources : List Source} {key : String}
    (h : key ∈ sources.flatMap fun p => p.names.map actionKey) : ':' ∈ key.toList := by
  obtain ⟨p, -, h⟩ := List.mem_flatMap.1 h
  obtain ⟨name, hname, rfl⟩ := List.mem_map.1 h
  have hhead : p.reverseName.toList.head? = some ':' := p.rel.head?_reverseName _
  rw [mem_actionKey_iff (by decide) (by decide)]
  apply List.mem_of_mem_head?
  rcases Source.mem_names.1 hname with rfl | ⟨-, rfl⟩
  · exact hhead
  · exact head?_toCreateMany hhead

theorem actionKeys_eq (h : m.Becomes r o n) : n.actionKeys =
    (m.methods.map (·.name)).map actionKey ++
      ((r.unresolved o).sources r o n.name).flatMap (fun p => p.names.map actionKey) ++
      if n.isUser then ["getCurrent"] else [] := by
  have hkey : ∀ methods : List Method,
      methods.map (actionKey ·.name) = (methods.map (·.name)).map actionKey := by
    intro methods
    rw [List.map_map]
    rfl
  have hnames : ((r.unresolved o).reversesFor r o m.name).map (·.name) =
      ((r.unresolved o).sources r o n.name).flatMap Source.names := by
    rw [ModelSet.reversesFor_eq, ← h.name, List.map_flatMap]
    congr 1
    funext p
    exact p.map_name_reverses
  rw [Model.actionKeys, h.methods, hkey, List.map_append, Model.map_name_ownMethods, hnames,
    List.map_append, List.map_flatMap]

theorem not_mem_ownKeys {names : List String} (user : Bool) (h : ∀ name ∈ names, ':' ∉ name.toList) :
    ∀ key ∈ (names ++ if "create" ∈ names then ["createMany"] else []).map actionKey ++
      if user then ["getCurrent"] else [], ':' ∉ key.toList := by
  intro key hkey
  rcases List.mem_append.1 hkey with hkey | hkey
  · obtain ⟨name, hname, rfl⟩ := List.mem_map.1 hkey
    apply Source.not_mem_key
    rcases List.mem_append.1 hname with hname | hname
    · exact h name hname
    · split at hname
      · rw [List.mem_singleton.1 hname]
        decide
      · cases hname
  · split at hkey
    · rw [List.mem_singleton.1 hkey]
      decide
    · cases hkey

/-- The actions of a factory have different keys just if its class does not have a `createMany` next
to its `create`, no `getCurrent` if it is a user's, and of the relation methods that lead to it none
from different models are spelled alike in keys, and none is the twin of another. -/
theorem nodup_actionKeys_iff (hkeys : ∀ c ∈ r.classes, (c.methods.map (actionKey ·.name)).Nodup)
    (hcolon : ∀ c ∈ r.classes, ∀ x ∈ c.methods, ':' ∉ x.name.toList)
    (hdisplay : (r.classes.map fun c => Text.lower (o.displayName c.name)).Nodup)
    (hn : n ∈ r.describe o) :
    ∃ c, r.class? n.declaredName = some c ∧ (n.actionKeys.Nodup ↔
      ("create" ∈ c.methods.map (·.name) → "createMany" ∉ c.methods.map (·.name)) ∧
      (n.isUser = true → "getCurrent" ∉ c.methods.map (·.name)) ∧
      ∀ p q : Source, p.LeadsTo (r.describe o) n.name → q.LeadsTo (r.describe o) n.name →
        (p.SameKey q → p.model.name = q.model.name) ∧ ¬ p.TwinsKey q) := by
  have hclasses : (r.classes.map (·.name)).Nodup := by
    refine List.Nodup.of_map (fun name => Text.lower (o.displayName name)) ?_
    rwa [List.map_map]
  obtain ⟨m, hm, h⟩ := exists_unresolved_of_mem hn
  obtain ⟨c, hc, hdeclared, hnames⟩ := exists_class_of_mem_unresolved (nodup_names_of_keys hkeys) hm
  refine ⟨c, by rw [h.declaredName, hdeclared, class?_of_nodup hclasses hc], ?_⟩
  have hown : ((c.methods.map (·.name)).map actionKey).Nodup := by
    rw [List.map_map]
    exact hkeys c hc
  have hcolonless : ∀ p ∈ (r.unresolved o).sources r o n.name, p.Colonless :=
    fun p hp => colonless_of_mem_sources hkeys hcolon hp
  have hapart := not_mem_ownKeys n.isUser (List.forall_mem_map.2 (hcolon c hc))
  rw [actionKeys_eq h, hnames, List.append_assoc, (List.perm_append_comm.append_left _).nodup_iff,
    ← List.append_assoc, List.nodup_append, nodup_ownKeys_iff _ hown,
    Source.nodup_keys_iff hcolonless (nodup_sources (nodup_names_of_keys hkeys))]
  constructor
  · rintro ⟨⟨hcreate, hcurrent⟩, ⟨hsame, htwins⟩, -⟩
    refine ⟨hcreate, hcurrent, ?_⟩
    intro p q hp hq
    obtain ⟨p', hp', hshown⟩ := exists_source hp
    obtain ⟨q', hq', hshown'⟩ := exists_source hq
    rw [hshown.sameKey hshown', hshown.twinsKey hshown', hshown.name, hshown'.name]
    exact ⟨fun hkey => congrArg (·.model.name) (hsame p' hp' q' hq' hkey), htwins p' hp' q' hq'⟩
  · rintro ⟨hcreate, hcurrent, hsources⟩
    have hshow : ∀ p' ∈ (r.unresolved o).sources r o n.name,
        ∀ q' ∈ (r.unresolved o).sources r o n.name,
          (p'.SameKey q' → p'.model.name = q'.model.name) ∧ ¬ p'.TwinsKey q' := by
      intro p' hp' q' hq'
      obtain ⟨p, hp, hshown⟩ := exists_leadsTo hp'
      obtain ⟨q, hq, hshown'⟩ := exists_leadsTo hq'
      have hpq := hsources p q hp hq
      rwa [hshown.sameKey hshown', hshown.twinsKey hshown', hshown.name, hshown'.name] at hpq
    refine ⟨⟨hcreate, hcurrent⟩, ⟨?_, ?_⟩, ?_⟩
    · intro p hp q hq hkey
      exact eq_of_sameKey hkeys hclasses hp hq hkey ((hshow p hp q hq).1 hkey)
    · exact fun p hp q hq => (hshow p hp q hq).2
    · rintro key hkey _ hreverse rfl
      exact hapart key hkey (mem_of_mem_reverseKeys hreverse)

/-- Memos are created one by one or, at another path, many at a time. -/
def memos : Registry where
  remotingVersion := 3
  classes := [
    { name := "memo"
      ctor := some ⟨none⟩
      description := none
      httpPath := none
      prototypeChain := []
      relations := []
      exposedMethods := none
      methods := [.served "create" "/memos", .served "createMany" "/memos/many"]
      properties := [] }]

theorem nodup_actionKeys_iff_memos :
    (∀ c ∈ memos.classes, (c.methods.map (actionKey ·.name)).Nodup) ∧
      (∀ c ∈ memos.classes, ∀ x ∈ c.methods, ':' ∉ x.name.toList) ∧
      (memos.classes.map fun c => Text.lower (Options.default.displayName c.name)).Nodup ∧
      ∃ n ∈ memos.describe .default, ¬ n.actionKeys.Nodup := by
  have hkeys : ∀ c ∈ memos.classes, (c.methods.map (actionKey ·.name)).Nodup := by decide
  have hcolon : ∀ c ∈ memos.classes, ∀ x ∈ c.methods, ':' ∉ x.name.toList := by decide
  have hdisplay :
      (memos.classes.map fun c => Text.lower (Options.default.displayName c.name)).Nodup :=
    List.nodup_singleton _
  refine ⟨hkeys, hcolon, hdisplay, ?_⟩
  cases hn : memos.describe .default with
  | nil =>
    have hlength : (memos.describe .default).length = 1 := by decide +kernel
    rw [hn] at hlength
    cases hlength
  | cons n rest =>
    have hmem : n ∈ memos.describe .default := by
      rw [hn]
      exact List.mem_cons_self
    obtain ⟨c, hc, hiff⟩ := nodup_actionKeys_iff hkeys hcolon hdisplay hmem
    obtain rfl := List.mem_singleton.1 (List.mem_of_find?_eq_some hc)
    refine ⟨n, List.mem_cons_self, ?_⟩
    rw [hiff]
    rintro ⟨hcreate, -⟩
    exact hcreate (by decide) (by decide)

end Registry

end AngularClient
