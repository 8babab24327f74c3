import AngularClient.Proofs.Model.Collection
import AngularClient.Proofs.Relation.Grammar
import Mathlib.Data.List.TakeWhile

/-! The slot of a relation and the methods that resolving attaches, said of the method list as a
whole.  The model that a relation leads to is the first of the display name up to case.  A method of
the relation is attached if it, or one before it, is exposed by the class of that model. -/

namespace AngularClient

def Method.worksOn (relation : String) (x : Method) : Bool :=
  (RelationMethod.parse? x.name).any (·.scope == relation)

structure Attachment where
  rel : RelationMethod
  method : Method
  target : Model

namespace Model

def exposes (r : Registry) (m : Model) (x : Method) : Bool :=
  (r.class? m.declaredName).all (·.exposes (bareMethodName x.name))

def targetClass? (r : Registry) (m : Model) (relation : String) : Option String :=
  (r.class? m.declaredName).bind (·.relationTarget relation)

def relationMethods (r : Registry) (m : Model) (relation : String) (methods : List Method) :
    List Method :=
  if (m.targetClass? r relation).isSome then methods.filter (·.worksOn relation) else []

def operations (m : Model) (methods : List Method) : Dictionary Method :=
  methods.foldl (fun d x => (RelationMethod.parse? x.name).elim d fun rel => rel.record m x d) []

variable (r : Registry) (o : Options) (set : ModelSet)

def destination? (m : Model) (relation : String) : Option Model :=
  (m.targetClass? r relation).bind fun c =>
    set.find? fun t => Text.lower t.name == Text.lower (o.displayName c)

def latched (target : Model) (methods : List Method) : List Method :=
  methods.dropWhile fun x => !target.exposes r x

def slotAfter (m : Model) (relation : String) (methods : List Method) : Option Slot :=
  match m.destination? r o set relation with
  | none => if methods.isEmpty then none else some .skipped
  | some target =>
    if (latched r target methods).isEmpty then none
    else some (.resolved ⟨target.name, m.operations (latched r target methods)⟩)

def attachment? (m : Model) (k : Nat) : Option Attachment := do
  let x ← m.methods[k]?
  let rel ← RelationMethod.parse? x.name
  let target ← m.destination? r o set rel.scope
  if (m.methods.take (k + 1)).any fun y => y.worksOn rel.scope && target.exposes r y then
    some ⟨rel, x, target⟩
  else none

end Model

namespace Method

@[simp] theorem worksOn_scope {x : Method} {rel : RelationMethod}
    (h : RelationMethod.parse? x.name = some rel) : x.worksOn rel.scope = true := by
  simp [worksOn, h]

theorem worksOn_iff {x : Method} {relation : String} :
    x.worksOn relation = true ↔
      ∃ rel, RelationMethod.parse? x.name = some rel ∧ rel.scope = relation := by
  simp [worksOn, Option.any_eq_true]

end Method

namespace Model

variable {r : Registry} {o : Options} {set : ModelSet} {m target : Model} {relation : String}

theorem targetClass?_congr {n : Model} (h : n.declaredName = m.declaredName) (relation : String) :
    n.targetClass? r relation = m.targetClass? r relation := by
  rw [targetClass?, targetClass?, h]

theorem exposes_congr {n : Model} (h : n.declaredName = m.declaredName) (x : Method) :
    n.exposes r x = m.exposes r x := by
  rw [exposes, exposes, h]

theorem excludedBy_eq (x : Method) :
    RelationMethod.excludedBy r m x.name = !m.exposes r x := by
  unfold RelationMethod.excludedBy exposes
  cases r.class? m.declaredName with
  | none => rfl
  | some c => rfl

@[simp] theorem relationMethods_append (methods more : List Method) :
    m.relationMethods r relation (methods ++ more) =
      m.relationMethods r relation methods ++ m.relationMethods r relation more := by
  unfold relationMethods
  split
  · exact List.filter_append ..
  · rfl

@[simp] theorem relationMethods_singleton {x : Method} {rel : RelationMethod} {c : String}
    (hrel : RelationMethod.parse? x.name = some rel) (hc : m.targetClass? r rel.scope = some c) :
    m.relationMethods r rel.scope [x] = [x] := by
  simp [relationMethods, hc, Method.worksOn_scope hrel]

theorem relationMethods_singleton_of_ne {x : Method}
    (h : ∀ rel, RelationMethod.parse? x.name = some rel → rel.scope ≠ relation) :
    m.relationMethods r relation [x] = [] := by
  have hw : x.worksOn relation = false := by
    rw [← Bool.not_eq_true, Method.worksOn_iff]
    rintro ⟨rel, hrel, hs⟩
    exact h rel hrel hs
  simp [relationMethods, hw]

theorem operations_append {x : Method} {rel : RelationMethod} (methods : List Method)
    (hrel : RelationMethod.parse? x.name = some rel) :
    m.operations (methods ++ [x]) = rel.record m x (m.operations methods) := by
  simp [operations, hrel]

theorem latched_append (methods : List Method) (x : Method) :
    latched r target (methods ++ [x]) =
      if (latched r target methods).isEmpty then (if target.exposes r x then [x] else [])
      else latched r target methods ++ [x] := by
  simp only [latched, List.dropWhile_append, List.dropWhile_cons, List.dropWhile_nil]
  cases target.exposes r x <;> rfl

theorem latched_isEmpty {methods : List Method} :
    (latched r target methods).isEmpty = !methods.any (target.exposes r) := by
  rw [Bool.eq_iff_iff]
  simp [latched, List.dropWhile_eq_nil_iff]

theorem slotAfter_of_no_destination {methods : List Method} (x : Method)
    (hd : m.destination? r o set relation = none) :
    m.slotAfter r o set relation (methods ++ [x]) = some .skipped := by
  simp [slotAfter, hd]

theorem slotAfter_of_not_exposed {methods : List Method}
    (hd : m.destination? r o set relation = some target)
    (he : methods.any (target.exposes r) = false) :
    m.slotAfter r o set relation methods = none := by
  simp only [slotAfter, hd, latched_isEmpty, he, Bool.not_false, if_true]

theorem slotAfter_of_exposed {methods : List Method} {x : Method} {rel : RelationMethod}
    (hd : m.destination? r o set rel.scope = some target)
    (hrel : RelationMethod.parse? x.name = some rel)
    (he : (methods ++ [x]).any (target.exposes r) = true) :
    m.slotAfter r o set rel.scope (methods ++ [x]) =
      some (.resolved ⟨target.name, rel.record m x
        (((m.slotAfter r o set rel.scope methods).bind (·.scope?)).getD ⟨target.name, []⟩).methods⟩)
      := by
  have hne : (latched r target (methods ++ [x])).isEmpty = false := by
    rw [latched_isEmpty, he]
    rfl
  simp only [slotAfter, hd, hne]
  rw [latched_append] at hne ⊢
  cases hl : (latched r target methods).isEmpty with
  | true =>
    rw [hl] at hne
    cases hx : target.exposes r x with
    | true => simp [operations, hrel]
    | false => simp [hx] at hne
  | false =>
    simp [Slot.scope?, operations_append _ hrel]

end Model

end AngularClient
