import AngularClient.Proofs.Relation.ClassOrder
import AngularClient.Proofs.Relation.Reachable

namespace AngularClient

namespace Method

variable {accepts accepts' : Option (List Parameter)} {x : Method}

theorem augment_congr (h : x.isStatic = false → accepts.getD [] = accepts'.getD []) :
    x.augment accepts = x.augment accepts' := by
  unfold augment
  cases hstatic : x.isStatic with
  | true => rfl
  | false => rw [h hstatic]

theorem accepts_augment (hstatic : x.isStatic = false) :
    (x.augment accepts).accepts = accepts.getD [] ++ x.accepts := by
  rw [augment, hstatic]
  rfl

theorem getElem?_augmentAll {methods : List Method} {k : Nat} (hx : methods[k]? = some x) :
    (augmentAll accepts methods)[k]? = some (x.augment accepts) := by
  have hmap : (methods.map (augment accepts))[k]? = some (x.augment accepts) := by
    rw [List.getElem?_map, hx, Option.map_some]
  rw [augmentAll, addCreateMany,
    List.getElem?_append_left (List.getElem?_eq_some_iff.1 hmap).1, hmap]

end Method

namespace Model

variable {r s : Registry} {o : Options} {base : ModelSet} {m n : Model} {relation : String}

def skips (r : Registry) (o : Options) (set : ModelSet) (m : Model) (relation : String) : Prop :=
  m.relationMethods r relation m.methods ≠ [] ∧ m.destination? r o set relation = none

theorem slotAt_eq_skipped_iff :
    m.slotAt r o base m.methods.length relation = some .skipped ↔ m.skips r o base relation := by
  rw [slotAt, List.take_length, slotAfter, skips]
  cases m.destination? r o base relation with
  | none => simp
  | some target =>
    simp only [reduceCtorEq, and_false, iff_false]
    split <;> simp

section Alike

variable (hattached : ∀ k, m.attachment? r o base k = m.attachment? s o base k)
  (hskipped : ∀ relation, m.skips r o base relation ↔ m.skips s o base relation)
include hattached

theorem attachments_congr (k : Nat) : m.attachments r o base k = m.attachments s o base k := by
  rw [attachments, attachments, funext hattached]

theorem ownMethods_congr (k : Nat) : m.ownMethods r o base k = m.ownMethods s o base k := by
  simp only [ownMethods, marked, hattached]

theorem sent_congr (k : Nat) (name : String) : m.sent r o base k name = m.sent s o base k name := by
  have hat : m.reversesAt r o base name = m.reversesAt s o base name := by
    funext k
    rw [reversesAt, reversesAt, hattached]
  rw [sent, sent, hat]

theorem slotAt_of_resolved {scope : Scope}
    (h : m.slotAt r o base m.methods.length relation = some (.resolved scope)) :
    m.slotAt s o base m.methods.length relation = some (.resolved scope) := by
  obtain ⟨k, a, ha, rfl⟩ := exists_attachment_of_slotAt (Nat.le_refl _) h
  have hk : k < m.methods.length :=
    (List.getElem?_eq_some_iff.1 (attachment?_eq_some_iff.1 ha).1).1
  have hmem : a ∈ m.attachments r o base m.methods.length := mem_attachments.2 ⟨k, hk, ha⟩
  obtain ⟨d, hd⟩ := slotAt_of_mem_attachments (Nat.le_refl _) hmem
  rw [attachments_congr hattached] at hmem
  obtain ⟨d', hd'⟩ := slotAt_of_mem_attachments (Nat.le_refl _) hmem
  obtain rfl := Slot.resolved.inj (Option.some.inj (h.symm.trans hd))
  obtain ⟨-, -, -, hmethods⟩ := slotAt_resolved (Nat.le_refl _) hd
  obtain ⟨-, -, -, hmethods'⟩ := slotAt_resolved (Nat.le_refl _) hd'
  rw [← attachments_congr hattached, ← hmethods] at hmethods'
  rw [hd', show d' = d from hmethods']

include hskipped

theorem slotAt_congr (relation : String) :
    m.slotAt r o base m.methods.length relation = m.slotAt s o base m.methods.length relation := by
  apply Option.ext
  rintro (scope | _)
  · exact ⟨slotAt_of_resolved hattached, slotAt_of_resolved fun k => (hattached k).symm⟩
  · exact slotAt_eq_skipped_iff.trans ((hskipped relation).trans slotAt_eq_skipped_iff.symm)

end Alike

theorem mem_of_destination? {target : Model} (h : m.destination? r o base relation = some target) :
    target ∈ base := by
  obtain ⟨c, -, hfind⟩ := Option.bind_eq_some_iff.1 h
  exact List.mem_of_find?_eq_some hfind

namespace Becomes

theorem attachment?_eq (hr : m.Becomes r o n) (hs : m.Becomes s o n)
    (hbase : s.unresolved o = r.unresolved o) (hm : m ∈ r.unresolved o) (k : Nat) :
    m.attachment? r o (r.unresolved o) k = m.attachment? s o (r.unresolved o) k := by
  have hfresh := Registry.fresh_unresolved r o
  have hs' := hs.resolved
  rw [hbase] at hs'
  cases hx : m.methods[k]? with
  | none => simp [attachment?, hx]
  | some x =>
    have hmarked := (hr.resolved.getElem?_methods hx).symm.trans (hs'.getElem?_methods hx)
    have hunmarked := hfresh.unmarked m hm x (List.mem_of_getElem? hx)
    have hsome : (m.attachment? r o (r.unresolved o) k).isSome =
        (m.attachment? s o (r.unresolved o) k).isSome := by
      rw [← Resolved.internal_isSome_iff hunmarked, Option.some.inj hmarked,
        Resolved.internal_isSome_iff hunmarked]
    cases ha : m.attachment? r o (r.unresolved o) k with
    | none =>
      rw [ha] at hsome
      exact (Option.not_isSome_iff_eq_none.1 (by simp [← hsome])).symm
    | some a =>
      rw [ha] at hsome
      obtain ⟨b, hb⟩ := Option.isSome_iff_exists.1 hsome.symm
      obtain ⟨hxa, hrela, hda, -⟩ := attachment?_eq_some_iff.1 ha
      obtain ⟨hxb, hrelb, hdb, -⟩ := attachment?_eq_some_iff.1 hb
      have hmethod := Option.some.inj (hxa.symm.trans hxb)
      rw [hmethod] at hrela
      have hrel := Option.some.inj (hrela.symm.trans hrelb)
      -- the slot names the target, and names tell the models apart
      have hname := (hr.resolved.target_of_attachment ha).symm
      rw [hrel, hs'.target_of_attachment hb, Option.some.injEq] at hname
      have htarget := List.inj_on_of_nodup_map hfresh.distinct (mem_of_destination? hda)
        (mem_of_destination? hdb) hname
      rw [hb]
      cases a
      cases b
      cases hmethod
      cases hrel
      cases htarget
      rfl

theorem skips_iff (hr : m.Becomes r o n) (hs : m.Becomes s o n)
    (hbase : s.unresolved o = r.unresolved o) (relation : String) :
    m.skips r o (r.unresolved o) relation ↔ m.skips s o (r.unresolved o) relation := by
  rw [← slotAt_eq_skipped_iff, ← slotAt_eq_skipped_iff, ← hr.slot, ← hbase, ← hs.slot]

end Becomes

end Model

namespace Registry

variable {r s : Registry} {o : Options}

/-- What describing looks up in two registries that collect the same models comes to the same: the
parameters of constructors, for the models with instance methods; which relation methods are attached
to which models, and which relations are skipped; and the schemas, where they are taken. -/
structure LooksUpAlike (o : Options) (r s : Registry) : Prop where
  parameters : ∀ m ∈ (r.collect o).models, ∀ x ∈ m.methods, x.isStatic = false →
    (r.ctorAccepts m.declaredName).getD [] = (s.ctorAccepts m.declaredName).getD []
  attached : ∀ m ∈ r.unresolved o, ∀ k,
    m.attachment? r o (r.unresolved o) k = m.attachment? s o (r.unresolved o) k
  skipped : ∀ m ∈ r.unresolved o, ∀ relation,
    m.skips r o (r.unresolved o) relation ↔ m.skips s o (r.unresolved o) relation
  schemas : o.includeSchema = true → ∀ m ∈ (r.collect o).models,
    Schema.ofDefinitions m.name ((r.definition? m.declaredName).getD []) =
      .ofDefinitions m.name ((s.definition? m.declaredName).getD [])

theorem exists_becomes_both {i : Nat} {m m' : Model} (h : s.describe o = r.describe o)
    (hm : (r.unresolved o)[i]? = some m) (hm' : (s.unresolved o)[i]? = some m') :
    ∃ n ∈ r.describe o, m.Becomes r o n ∧ m'.Becomes s o n := by
  obtain ⟨n, hn, hr⟩ := exists_described hm
  obtain ⟨n', hn', hs⟩ := exists_described hm'
  rw [h] at hn'
  obtain rfl := Option.some.inj (hn.symm.trans hn')
  exact ⟨n, List.mem_of_getElem? hn, hr, hs⟩

section Same

variable (hcollect : (s.collect o).models = (r.collect o).models)
include hcollect

theorem unresolved_congr
    (hparameters : ∀ m ∈ (r.collect o).models, ∀ x ∈ m.methods, x.isStatic = false →
      (r.ctorAccepts m.declaredName).getD [] = (s.ctorAccepts m.declaredName).getD []) :
    s.unresolved o = r.unresolved o := by
  rw [unresolved, unresolved, hcollect]
  apply List.map_congr_left
  intro m hm
  have hmethods : m.methods.map (Method.augment (s.ctorAccepts m.declaredName)) =
      m.methods.map (Method.augment (r.ctorAccepts m.declaredName)) := by
    apply List.map_congr_left
    intro x hx
    exact Method.augment_congr fun hstatic => (hparameters m hm x hx hstatic).symm
  rw [Model.augment, Model.augment, Method.augmentAll, Method.augmentAll, hmethods]

theorem LooksUpAlike.describe (h : r.LooksUpAlike o s) : s.describe o = r.describe o := by
  have hbase := unresolved_congr hcollect h.parameters
  apply List.ext_getElem?
  intro i
  cases hm : (r.unresolved o)[i]? with
  | none =>
    have hlength := List.getElem?_eq_none_iff.1 hm
    rw [List.getElem?_eq_none (by rwa [length_describe, hbase]),
      List.getElem?_eq_none (by rwa [length_describe])]
  | some m =>
    have hmem := List.mem_of_getElem? hm
    obtain ⟨n, hn, hbecomes⟩ := exists_described hm
    obtain ⟨n', hn', hbecomes'⟩ := exists_described (hbase ▸ hm)
    have hschema : n'.schema = n.schema := by
      rw [schema_describe (List.mem_of_getElem? hn), schema_describe (List.mem_of_getElem? hn'),
        hbecomes.name, hbecomes'.name, hbecomes.declaredName, hbecomes'.declaredName]
      obtain ⟨m', hm', rfl⟩ := List.mem_map.1 hmem
      split
      · next hs => exact congrArg some (h.schemas hs m' hm').symm
      · rfl
    have hreverses : (s.unresolved o).reversesFor s o m.name =
        (r.unresolved o).reversesFor r o m.name := by
      rw [hbase, ModelSet.reversesFor, ModelSet.reversesFor]
      apply List.flatMap_congr
      intro m' hm'
      exact (Model.sent_congr (h.attached m' hm') _ _).symm
    have hmethods : n'.methods = n.methods := by
      rw [hbecomes.methods, hbecomes'.methods, hreverses, hbase,
        Model.ownMethods_congr (h.attached m hmem)]
    have hscopes : n'.scopes = n.scopes := by
      apply hbecomes'.sorted.ext hbecomes.sorted
      intro relation
      rw [hbecomes.slot, hbecomes'.slot, hbase,
        Model.slotAt_congr (h.attached m hmem) (h.skipped m hmem)]
    rw [hn, hn']
    calc some n'
      _ = some { n'.frame with methods := n'.methods, scopes := n'.scopes } := rfl
      _ = some { n.frame with methods := n.methods, scopes := n.scopes } := by
        rw [frame_eq_of_becomes hbecomes hbecomes' hschema, hmethods, hscopes]
      _ = some n := rfl

theorem exists_becomes_augmented (h : s.describe o = r.describe o) {m : Model}
    (hm : m ∈ (r.collect o).models) : ∃ n ∈ r.describe o, n ∈ s.describe o ∧
      (m.augment r).Becomes r o n ∧ (m.augment s).Becomes s o n := by
  obtain ⟨i, hi⟩ := List.getElem?_of_mem hm
  have hr : (r.unresolved o)[i]? = some (m.augment r) := by
    simp [unresolved, ModelSet.augment, hi]
  have hs : (s.unresolved o)[i]? = some (m.augment s) := by
    simp [unresolved, ModelSet.augment, hcollect, hi]
  obtain ⟨n, hn, hbecomes⟩ := exists_becomes_both h hr hs
  exact ⟨n, hn, h ▸ hn, hbecomes⟩

theorem ctorAccepts_of_describe (h : s.describe o = r.describe o) {m : Model}
    (hm : m ∈ (r.collect o).models) {x : Method} (hx : x ∈ m.methods)
    (hstatic : x.isStatic = false) :
    (r.ctorAccepts m.declaredName).getD [] = (s.ctorAccepts m.declaredName).getD [] := by
  obtain ⟨k, hk⟩ := List.getElem?_of_mem hx
  obtain ⟨n, -, -, hr, hs⟩ := exists_becomes_augmented hcollect h hm
  have hmarked := (hr.resolved.getElem?_methods (Method.getElem?_augmentAll hk)).symm.trans
    (hs.resolved.getElem?_methods (Method.getElem?_augmentAll hk))
  have haccepts := congrArg Method.accepts (Option.some.inj hmarked)
  rw [Model.accepts_marked, Model.accepts_marked, Method.accepts_augment hstatic,
    Method.accepts_augment hstatic] at haccepts
  exact List.append_cancel_right haccepts

theorem looksUpAlike_of_describe (h : s.describe o = r.describe o) : r.LooksUpAlike o s := by
  have hparameters : ∀ m ∈ (r.collect o).models, ∀ x ∈ m.methods, x.isStatic = false →
      (r.ctorAccepts m.declaredName).getD [] = (s.ctorAccepts m.declaredName).getD [] :=
    fun _ hm _ hx => ctorAccepts_of_describe hcollect h hm hx
  have hbase := unresolved_congr hcollect hparameters
  have hsame : ∀ m ∈ r.unresolved o, ∃ n, m.Becomes r o n ∧ m.Becomes s o n := by
    intro m hm
    obtain ⟨i, hi⟩ := List.getElem?_of_mem hm
    obtain ⟨n, -, hr, hs⟩ := exists_becomes_both h hi (hbase ▸ hi)
    exact ⟨n, hr, hs⟩
  refine ⟨hparameters, ?_, ?_, ?_⟩
  · intro m hm k
    obtain ⟨n, hr, hs⟩ := hsame m hm
    exact hr.attachment?_eq hs hbase hm k
  · intro m hm relation
    obtain ⟨n, hr, hs⟩ := hsame m hm
    exact hr.skips_iff hs hbase relation
  · intro hinclude m hm
    obtain ⟨n, hmem, hmem', hr, hs⟩ := exists_becomes_augmented hcollect h hm
    have hschema := (schema_describe hmem).symm.trans (schema_describe hmem')
    rw [if_pos hinclude, if_pos hinclude, Option.some.injEq, hr.name, hr.declaredName] at hschema
    exact hschema

theorem describe_eq_iff : s.describe o = r.describe o ↔ r.LooksUpAlike o s :=
  ⟨looksUpAlike_of_describe hcollect, LooksUpAlike.describe hcollect⟩

end Same

/-- What is described is each model once, by the class that was kept for it; but what the later
passes read is read from the first class of the same declared name.  They could as well read the kept
class if the first agrees with it, and just if what they look up comes to the same. -/
theorem described_from_first_declaration (r : Registry) (o : Options) :
    r.describe o = (r.declaringOnce o r.first).describe o ∧
    (∀ source, ∀ c ∈ (r.declaringOnce o source).classes,
      (r.declaringOnce o source).kept? o (o.displayName c.name) = some c ∧
        (r.declaringOnce o source).class? c.name = some c) ∧
    ((∀ m ∈ (r.collect o).models, ∀ c, r.kept? o m.name = some c → (r.first c).Agrees o c) →
      r.describe o = (r.declaringOnce o id).describe o) ∧
    (r.describe o = (r.declaringOnce o id).describe o ↔
      r.LooksUpAlike o (r.declaringOnce o id)) := by
  refine ⟨?_, ?_, describe_declaringOnce, ?_⟩
  · apply describe_declaringOnce
    intro _ _ _ _
    exact ⟨rfl, rfl, rfl, fun _ => rfl⟩
  · intro source c hc
    exact unique_declaringOnce hc
  · rw [eq_comm]
    exact describe_eq_iff (collect_declaringOnce r o id)

/-- Notes are declared twice, and only the first time with a parameter for the constructor. -/
def notes : Registry where
  remotingVersion := 3
  classes :=
    let note : ModelClass :=
      { name := "note"
        ctor := some ⟨none⟩
        description := none
        httpPath := none
        prototypeChain := []
        relations := []
        exposedMethods := none
        methods := [.served "prototype.get" "/notes/:id"]
        properties := [] }
    [{ note with ctor := some ⟨some [⟨"id", none, false, none, some ⟨some .path⟩⟩]⟩ }, note]

/-- A note takes the parameter of the constructor that it is not declared with in the end. -/
theorem described_from_first_declaration_notes :
    notes.describe .default = (notes.declaringOnce .default notes.first).describe .default ∧
      (notes.describe .default).map (fun m => m.methods.map fun x => x.accepts.map (·.name)) =
        [[["id"]]] ∧
      notes.describe .default ≠ (notes.declaringOnce .default id).describe .default ∧
        parts.describe .default = (parts.declaringOnce .default id).describe .default := by
  refine ⟨(described_from_first_declaration notes .default).1, by decide, ?_,
    (described_from_first_declaration parts .default).2.2.1 ?_⟩
  · intro h
    have halike := (described_from_first_declaration notes .default).2.2.2.1 h
    have hm := List.getElem?_eq_getElem (l := (notes.collect .default).models) (i := 0) (by decide)
    have hmem := List.mem_of_getElem? hm
    have hinstance : ∀ m ∈ (notes.collect .default).models, ∃ x ∈ m.methods, x.isStatic = false := by
      decide
    obtain ⟨x, hx, hstatic⟩ := hinstance _ hmem
    have hnames := congrArg (List.map (·.name)) (halike.parameters _ hmem x hx hstatic)
    exact absurd hnames (by decide)
  · intro m _ c hc
    obtain rfl := List.mem_singleton.1 (kept?_spec hc).1
    exact ⟨rfl, rfl, rfl, fun _ => rfl⟩

end Registry

end AngularClient
