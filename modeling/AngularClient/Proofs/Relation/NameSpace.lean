import AngularClient.Proofs.Dictionary
import AngularClient.Proofs.Model.NameSpace
import AngularClient.Proofs.Model.Redeclared

/-! Resolving relations in a name space.  Two runs are compared, one without and one with the name
space in front of the names of models.  Every step finds the same methods, relations and targets in
both and does the same, but for the wording of notes, which no step reads. -/

namespace AngularClient

structure Method.SameButNote (x y : Method) : Prop where
  same : y.withInternal none = x.withInternal none
  marked : y.internal.isSome = x.internal.isSome

structure Model.SameButNotes (m n : Model) : Prop where
  frame : n.frame = m.frame
  scopes : n.scopes = m.scopes
  methods : List.Forall₂ Method.SameButNote m.methods n.methods

def ModelSet.NamedIn (p : String) (set set' : ModelSet) : Prop :=
  List.Forall₂ (fun m n => Text.Ascii m.name ∧ (m.inNameSpace p).SameButNotes n) set set'

namespace Method.SameButNote

variable {x y : Method}

theorem refl (x : Method) : x.SameButNote x := ⟨rfl, rfl⟩

theorem name (h : x.SameButNote y) : y.name = x.name := by
  have hn := congrArg Method.name h.same
  exact hn

theorem withInternal (h : x.SameButNote y) (a b : String) :
    (x.withInternal (some a)).SameButNote (y.withInternal (some b)) :=
  ⟨h.same, rfl⟩

theorem renamed (h : x.SameButNote y) (name : String) :
    (x.renamed name).SameButNote (y.renamed name) :=
  ⟨congrArg (·.renamed name) h.same, h.marked⟩

theorem returningArray (h : x.SameButNote y) (name : String) :
    (x.returningArray name).SameButNote (y.returningArray name) :=
  ⟨congrArg (·.returningArray name) h.same, h.marked⟩

theorem exposed (h : x.SameButNote y) : y.exposed = x.exposed :=
  congrArg (fun x => { x with deprecated := none }) h.same

end Method.SameButNote

namespace Model.SameButNotes

variable {p : String} {m n : Model} (h : (m.inNameSpace p).SameButNotes n)
include h

omit h in
theorem refl (m : Model) : m.SameButNotes m where
  frame := rfl
  scopes := rfl
  methods := List.forall₂_same.2 fun x _ => .refl x

theorem name : n.name = p ++ m.name := by
  have hname : n.name = (m.inNameSpace p).name := name_eq h.frame
  exact hname

theorem declaredName : n.declaredName = m.declaredName := by
  have hdeclared : n.declaredName = (m.inNameSpace p).declaredName := declaredName_eq h.frame
  exact hdeclared

theorem find?_scopes (relation : String) :
    n.scopes.find? relation = (m.scopes.find? relation).map (·.inNameSpace p) := by
  rw [h.scopes]
  exact Dictionary.find?_mapValues _ m.scopes relation

theorem scope? (relation : String) :
    n.scope? relation = (m.scope? relation).map (·.inNameSpace p) := by
  rw [Model.scope?, Model.scope?, h.find?_scopes]
  cases m.scopes.find? relation with
  | none => rfl
  | some slot => cases slot <;> rfl

theorem method (k : Nat) : m.methods[k]? = none ∧ n.methods[k]? = none ∨
    ∃ x y, m.methods[k]? = some x ∧ n.methods[k]? = some y ∧ (x.inNameSpace p).SameButNote y := by
  have hmethods := h.methods
  rw [Model.inNameSpace, List.forall₂_map_left_iff] at hmethods
  exact getElem?_of_forall₂ hmethods k

theorem skip (relation : String) :
    (({ m with scopes := m.scopes.insert relation .skipped } : Model).inNameSpace p).SameButNotes
      { n with scopes := n.scopes.insert relation .skipped } where
  frame := h.frame
  scopes := by
    simp only [Model.inNameSpace, Dictionary.mapValues_insert, h.scopes]
    rfl
  methods := h.methods

theorem receive {xs ys : List Method}
    (hxs : List.Forall₂ Method.SameButNote (xs.map (·.inNameSpace p)) ys) :
    (({ m with methods := m.methods ++ xs } : Model).inNameSpace p).SameButNotes
      { n with methods := n.methods ++ ys } where
  frame := h.frame
  scopes := h.scopes
  methods := by
    have hmethods := h.methods
    simp only [Model.inNameSpace, List.map_append] at hmethods ⊢
    exact List.rel_append hmethods hxs

theorem withSchema (r : Registry) :
    ((m.withSchema r).inNameSpace p).SameButNotes (n.withSchema r) where
  frame := by
    have hschema : n.withSchema r =
        { n with schema := ((m.withSchema r).inNameSpace p).schema } := by
      rw [Model.withSchema, h.name, h.declaredName]
      rfl
    rw [hschema]
    exact congrArg (fun f : Model => { f with schema := ((m.withSchema r).inNameSpace p).schema })
      h.frame
  scopes := h.scopes
  methods := h.methods

end Model.SameButNotes

namespace RelationMethod

variable {p : String} {rel : RelationMethod} {m n : Model} {x y : Method}

theorem record_inNameSpace (rel : RelationMethod) (d : Dictionary Method)
    (hm : n.declaredName = m.declaredName)
    (hx : (x.inNameSpace p).SameButNote y) :
    rel.record n y (d.mapValues (·.inNameSpace p)) =
      (rel.record m x d).mapValues (·.inNameSpace p) := by
  have hclone (name : String) :
      (y.renamed name).exposed = ((x.renamed name).exposed).inNameSpace p :=
    (hx.renamed name).exposed
  simp only [record, hm, hclone]
  split
  · rw [Dictionary.mapValues_insert, Dictionary.mapValues_insert]
    rfl
  · simp

theorem reverses_inNameSpace (hm : n.declaredName = m.declaredName)
    (hx : (x.inNameSpace p).SameButNote y) :
    List.Forall₂ Method.SameButNote ((rel.reverses m x).map (·.inNameSpace p))
      (rel.reverses n y) := by
  have hreverse (name a b : String) :
      (((x.renamed name).withInternal (some a)).inNameSpace p).SameButNote
        ((y.renamed name).withInternal (some b)) :=
    (hx.renamed name).withInternal a b
  have htwin (name name' a a' b b' : String) :
      ((((x.renamed name).withInternal (some a)).returningArray name').withInternal
        (some a') |>.inNameSpace p).SameButNote
        ((((y.renamed name).withInternal (some b)).returningArray name').withInternal (some b')) :=
    ((hreverse name a b).returningArray name').withInternal a' b'
  simp only [reverses, hm]
  generalize rel.reverseName m.declaredName = name
  generalize rel.note m.name = a
  generalize rel.note n.name = b
  generalize toCreateMany name = name'
  generalize toCreateMany a = a'
  generalize toCreateMany b = b'
  cases mentionsCreate name with
  | true => exact .cons (hreverse name a b) (.cons (htwin name name' a a' b b') .nil)
  | false => exact .cons (hreverse name a b) .nil

theorem attachTo_inNameSpace (hm : (m.inNameSpace p).SameButNotes n)
    (hx : (x.inNameSpace p).SameButNote y) (target : String) (k : Nat) :
    ((rel.attachTo target k x m).inNameSpace p).SameButNotes
      (rel.attachTo (p ++ target) k y n) where
  frame := hm.frame
  scopes := by
    have hscope : (n.scope? rel.scope).getD ⟨p ++ target, []⟩ =
        ((m.scope? rel.scope).getD ⟨target, []⟩).inNameSpace p := by
      rw [hm.scope?]
      cases m.scope? rel.scope <;> rfl
    have hrecord := rel.record_inNameSpace ((m.scope? rel.scope).getD ⟨target, []⟩).methods
      hm.declaredName hx
    simp only [attachTo, hscope, Model.inNameSpace, Dictionary.mapValues_insert, hm.scopes]
    simp only [Scope.inNameSpace, Slot.inNameSpace, hrecord]
  methods := by
    have hmethods := hm.methods
    simp only [Model.inNameSpace, List.forall₂_map_left_iff, attachTo] at hmethods ⊢
    have hwith : ∀ a b : Method, (a.inNameSpace p).SameButNote b →
        ((a.withInternal (some (rel.note m.name))).inNameSpace p).SameButNote
          (b.withInternal (some (rel.note n.name))) :=
      fun _ _ h => h.withInternal _ _
    exact forall₂_modify hmethods hwith k

end RelationMethod

namespace ModelSet.NamedIn

variable {p : String} {set set' : ModelSet} (h : NamedIn p set set')
include h

theorem model (i : Nat) : set[i]? = none ∧ set'[i]? = none ∨
    ∃ m n, set[i]? = some m ∧ set'[i]? = some n ∧ (m.inNameSpace p).SameButNotes n := by
  obtain hnone | ⟨m, n, hm, hn, -, hmn⟩ := getElem?_of_forall₂ h i
  · exact .inl hnone
  · exact .inr ⟨m, n, hm, hn, hmn⟩

theorem position? (name : String) : set'.position? (p ++ name) = set.position? name := by
  refine findIdx?_of_forall₂ h ?_
  intro m n hmn
  rw [hmn.2.name, append_beq_append]

theorem positionIgnoringCase? (hp : Text.Ascii p) {name : String} (hname : Text.Ascii name) :
    set'.positionIgnoringCase? (p ++ name) = set.positionIgnoringCase? name := by
  refine findIdx?_of_forall₂ h ?_
  intro m n hmn
  rw [hmn.2.name, Bool.eq_iff_iff, beq_iff_eq, beq_iff_eq, Text.lower_append_inj hp hmn.1 hname]

theorem modify {f g : Model → Model} (i : Nat) (hname : ∀ m, (f m).name = m.name)
    (hfg : ∀ m n, (m.inNameSpace p).SameButNotes n → ((f m).inNameSpace p).SameButNotes (g n)) :
    NamedIn p (set.modify i f) (set'.modify i g) := by
  refine forall₂_modify h ?_ i
  rintro m n ⟨hascii, hmn⟩
  exact ⟨by rwa [hname], hfg m n hmn⟩

end ModelSet.NamedIn

section Step

variable {r : Registry} {o : Options} {set set' : ModelSet} {i k : Nat} {m n : Model}
  {x y : Method} {rel : RelationMethod} {c : String}

theorem RelationMethod.effect_namespaced (ho : o.namespaceModels = false)
    (hp : Text.Ascii o.nameSpace) (hc : Text.Ascii c) (h : set.NamedIn o.nameSpace set')
    (hm : (m.inNameSpace o.nameSpace).SameButNotes n) (hx : y.name = x.name) :
    rel.effect r o.namespaced set' n y c = rel.effect r o set m x c := by
  have hdisplay : Text.Ascii (o.displayName c) := by
    rw [Options.displayName, ho]
    exact hc.capitalize
  rw [effect, effect, hm.find?_scopes, Options.displayName_namespaced ho,
    h.positionIgnoringCase? hp hdisplay]
  cases m.scopes.find? rel.scope with
  | some slot =>
    cases slot with
    | skipped => rfl
    | resolved s =>
      have hposition := h.position? s.target
      simp only [Option.map_some, Slot.inNameSpace, Scope.inNameSpace, hposition]
  | none =>
    cases set.positionIgnoringCase? (o.displayName c) with
    | none => rfl
    | some t =>
      obtain ⟨hnone, hnone'⟩ | ⟨target, target', ht, ht', htarget⟩ := h.model t
      · simp only [Option.map_none, hnone, hnone', Option.any_none]
      · simp only [Option.map_none, ht, ht', Option.any_some, excludedBy, htarget.declaredName, hx]

namespace Registry

structure AsciiNamed (r : Registry) : Prop where
  classes : ∀ c ∈ r.classes, Text.Ascii c.name
  targets : ∀ c ∈ r.classes, ∀ e ∈ c.relations, ∀ target ∈ e.2.targetClass, Text.Ascii target

theorem AsciiNamed.targetClass? (h : r.AsciiNamed) {relation : String}
    (hc : m.targetClass? r relation = some c) : Text.Ascii c := by
  obtain ⟨d, hd, hrelation⟩ := Option.bind_eq_some_iff.1 hc
  obtain ⟨e, he, htarget⟩ := Option.bind_eq_some_iff.1 hrelation
  have hmem := Dictionary.mem_of_find?_eq_some he
  exact h.targets d (List.mem_of_find?_eq_some hd) (relation, e) hmem c htarget

end Registry

namespace ModelSet.NamedIn

variable (ho : o.namespaceModels = false) (hp : Text.Ascii o.nameSpace) (hr : r.AsciiNamed)
include ho hp hr

theorem resolveMethod (h : NamedIn o.nameSpace set set') :
    NamedIn o.nameSpace (resolveMethod r o i k set) (resolveMethod r o.namespaced i k set') := by
  obtain ⟨hi, hi'⟩ | ⟨m, n, hi, hi', hm⟩ := h.model i
  · simp only [ModelSet.resolveMethod, hi, hi']
    exact h
  obtain ⟨hk, hk'⟩ | ⟨x, y, hk, hk', hx⟩ := hm.method k
  · rw [resolveMethod_of_no_method hi hk, resolveMethod_of_no_method hi' hk']
    exact h
  have hname : y.name = x.name := hx.name
  have htargets : ∀ relation, n.targetClass? r relation = m.targetClass? r relation :=
    Model.targetClass?_congr hm.declaredName
  by_cases hnone : ∀ rel, RelationMethod.parse? x.name = some rel →
      m.targetClass? r rel.scope = none
  · rw [resolveMethod_of_not_relation hi hk hnone, resolveMethod_of_not_relation hi' hk' (by
      rwa [hname, forall_congr fun rel => by rw [htargets]])]
    exact h
  push Not at hnone
  obtain ⟨rel, hrel, hc⟩ := hnone
  obtain ⟨c, hc⟩ := Option.ne_none_iff_exists'.1 hc
  have hrel' : RelationMethod.parse? y.name = some rel := by rw [hname, hrel]
  have hc' : n.targetClass? r rel.scope = some c := (htargets rel.scope).trans hc
  have heffect : rel.effect r o.namespaced set' n y c = rel.effect r o set m x c :=
    RelationMethod.effect_namespaced ho hp (hr.targetClass? hc) h hm hname
  cases he : rel.effect r o set m x c with
  | pass =>
    rw [resolveMethod_of_pass hi hk hrel hc he,
      resolveMethod_of_pass hi' hk' hrel' hc' (heffect.trans he)]
    exact h
  | skip =>
    rw [resolveMethod_of_skip hi hk hrel hc he,
      resolveMethod_of_skip hi' hk' hrel' hc' (heffect.trans he)]
    refine h.modify i ?_ ?_
    · intro _; rfl
    · intro _ _ hmn
      exact hmn.skip rel.scope
  | attach t =>
    obtain ⟨ht, ht'⟩ | ⟨target, target', ht, ht', htarget⟩ := h.model t
    · rw [resolveMethod_of_no_target hi hk hrel hc he ht,
        resolveMethod_of_no_target hi' hk' hrel' hc' (heffect.trans he) ht']
      exact h
    · rw [resolveMethod_of_attach hi hk hrel hc he ht,
        resolveMethod_of_attach hi' hk' hrel' hc' (heffect.trans he) ht', attach, attach,
        htarget.name]
      have hsource : NamedIn o.nameSpace (set.modify i (rel.attachTo target.name k x))
          (set'.modify i (rel.attachTo (o.nameSpace ++ target.name) k y)) := by
        refine h.modify i ?_ ?_
        · intro _; rfl
        · intro _ _ hmn
          exact RelationMethod.attachTo_inNameSpace hmn hx target.name k
      refine hsource.modify t ?_ ?_
      · intro _; rfl
      · intro _ _ hmn
        exact hmn.receive (RelationMethod.reverses_inNameSpace hm.declaredName hx)

theorem resolveModel (h : NamedIn o.nameSpace set set') :
    NamedIn o.nameSpace (resolveModel r o set i) (resolveModel r o.namespaced set' i) := by
  have hcount : (set'[i]?.map (·.methods.length)).getD 0 =
      (set[i]?.map (·.methods.length)).getD 0 := by
    obtain ⟨hi, hi'⟩ | ⟨m, n, hi, hi', hm⟩ := h.model i
    · rw [hi, hi']
    · have hlength := hm.methods.length_eq
      rw [Model.inNameSpace, List.length_map] at hlength
      rw [hi, hi', Option.map_some, Option.map_some, hlength]
  rw [ModelSet.resolveModel, ModelSet.resolveModel, hcount]
  apply List.foldl_rel h
  intro k _ set set' h
  exact h.resolveMethod ho hp hr

theorem resolveScopes (h : NamedIn o.nameSpace set set') :
    NamedIn o.nameSpace (set.resolveScopes r o) (set'.resolveScopes r o.namespaced) := by
  rw [ModelSet.resolveScopes, ModelSet.resolveScopes, ← h.length_eq]
  apply List.foldl_rel h
  intro i _ set set' h
  exact h.resolveModel ho hp hr

end ModelSet.NamedIn

theorem ModelSet.NamedIn.takeSchemas {p : String} (h : NamedIn p set set') :
    NamedIn p (set.takeSchemas r) (set'.takeSchemas r) := by
  rw [ModelSet.takeSchemas, ModelSet.takeSchemas, NamedIn, List.forall₂_map_left_iff,
    List.forall₂_map_right_iff]
  refine h.imp ?_
  rintro m n ⟨hascii, hmn⟩
  exact ⟨hascii, hmn.withSchema r⟩

end Step

namespace Registry

variable {r : Registry} {o : Options}

theorem unresolved_namedIn (ho : o.namespaceModels = false) (hr : r.AsciiNamed) :
    ModelSet.NamedIn o.nameSpace (r.unresolved o) (r.unresolved o.namespaced) := by
  rw [unresolved_namespaced ho, ModelSet.NamedIn, List.forall₂_map_right_iff, List.forall₂_same]
  intro m hm
  obtain ⟨m', hm', rfl⟩ := List.mem_map.1 hm
  obtain ⟨c, hc, -, -, rfl⟩ := Collection.exists_class_of_mem hm'
  refine ⟨?_, .refl _⟩
  have hascii : Text.Ascii (Text.capitalize c.name) := (hr.classes c hc).capitalize
  rwa [Model.augment, Model.ofClass, Options.displayName, ho]

/-- Where all names are of ASCII, namespacing puts the name space in front of the names of models,
of the owners of methods, of targets and of schemas.  All else but the wording of notes stays. -/
theorem describe_namespaced (r : Registry) (o : Options) (ho : o.namespaceModels = false)
    (hmodule : Text.Ascii o.moduleName) (hdelimiter : Text.Ascii o.namespaceDelimiter)
    (hr : r.AsciiNamed) :
    List.Forall₂ (fun m n => (m.inNameSpace o.nameSpace).SameButNotes n) (r.describe o)
      (r.describe o.namespaced) := by
  have hresolved : ModelSet.NamedIn o.nameSpace (r.resolved o) (r.resolved o.namespaced) :=
    (unresolved_namedIn ho hr).resolveScopes ho (hmodule.append hdelimiter) hr
  have hdescribe : ModelSet.NamedIn o.nameSpace (r.describe o) (r.describe o.namespaced) := by
    have hwanted : o.namespaced.includeSchema = o.includeSchema := rfl
    rw [describe, describe, hwanted]
    split
    · exact hresolved.takeSchemas
    · exact hresolved
  exact hdescribe.imp fun _ _ h => h.2

/-- A part is then prefixed as a model, as the owner of its methods and as the target of its scope. -/
theorem describe_namespaced_parts :
    Options.default.namespaceModels = false ∧ Text.Ascii Options.default.moduleName ∧
      Text.Ascii Options.default.namespaceDelimiter ∧ parts.AsciiNamed ∧
      List.Forall₂ (fun m n => (m.inNameSpace "lbServices.").SameButNotes n)
        (parts.describe .default) (parts.describe Options.default.namespaced) ∧
      (parts.describe .default).map (fun m =>
          (m.name, (m.methods.map (·.owner)).eraseDups, m.resolvedScopes.map (·.2.target))) =
        [("Shop.part", ["Shop.part"], ["Shop.part"])] ∧
      (parts.describe Options.default.namespaced).map (fun m =>
          (m.name, (m.methods.map (·.owner)).eraseDups, m.resolvedScopes.map (·.2.target))) =
        [("lbServices.Shop.part", ["lbServices.Shop.part"], ["lbServices.Shop.part"])] := by
  have hr : parts.AsciiNamed := ⟨by decide, by decide⟩
  exact ⟨rfl, by decide, by decide, hr,
    describe_namespaced parts .default rfl (by decide) (by decide) hr, by decide, by decide⟩

end Registry

end AngularClient
