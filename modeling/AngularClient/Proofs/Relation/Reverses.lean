import AngularClient.Proofs.Relation.Described
import Mathlib.Data.List.Forall2
import Mathlib.Data.List.Infix

namespace AngularClient

def Model.reverseEntries (m : Model) (rel : RelationMethod) (x : Method) : List Method :=
  let name := "::" ++ rel.op ++ "::" ++ Text.lower m.declaredName ++ "::" ++ rel.scope
  let note := s!"Use {m.name}.{rel.apiName}() instead."
  { x with name := name, internal := some note } ::
    if "create".toList <:+: name.toList then
      [{ x with
        name := toCreateMany name, internal := some (toCreateMany note), returnsArray := true }]
    else []

/-- The reverse methods of those methods of a set that have a note in another, and whose relation is
resolved there to the model of a name: model by model, and in the order of methods. -/
def ModelSet.reversesOfMarked (before after : ModelSet) (name : String) : List Method :=
  (before.zip after).flatMap fun (m, n) =>
    (m.methods.zip n.methods).flatMap fun (x, y) =>
      match RelationMethod.parse? x.name with
      | some rel =>
        if y.internal.isSome ∧ (n.scope? rel.scope).map (·.target) = some name then
          m.reverseEntries rel x
        else []
      | none => []

section Lists

variable {α β γ : Type}

theorem flatMap_range_length {l : List α} {f : Nat → List β} {g : α → List β}
    (h : ∀ k a, l[k]? = some a → f k = g a) : (List.range l.length).flatMap f = l.flatMap g := by
  rw [List.flatMap_def, List.flatMap_def]
  congr 1
  apply List.ext_getElem
  · simp
  · intro k hk hk'
    rw [List.getElem_map, List.getElem_map, List.getElem_range]
    exact h k _ (List.getElem?_eq_getElem _)

theorem flatMap_zip_eq {l : List α} {l' : List β} {f : α × β → List γ} {g : α → List γ}
    (hl : l.length = l'.length)
    (h : ∀ (i : Nat) a b, l[i]? = some a → l'[i]? = some b → f (a, b) = g a) :
    (l.zip l').flatMap f = l.flatMap g := by
  rw [List.flatMap_def, List.flatMap_def]
  congr 1
  apply List.ext_getElem
  · simp [hl]
  · intro i hi hi'
    rw [List.getElem_map, List.getElem_map, List.getElem_zip]
    exact h i _ _ (List.getElem?_eq_getElem _) (List.getElem?_eq_getElem _)

end Lists

namespace Model

variable {r : Registry} {o : Options} {base : ModelSet} {m n : Model} {rel : RelationMethod}
  {x : Method} {k : Nat} {received : List Method}

theorem reverseEntries_eq : m.reverseEntries rel x = rel.reverses m x := by
  have hname : rel.reverseName m.declaredName =
      "::" ++ rel.op ++ "::" ++ Text.lower m.declaredName ++ "::" ++ rel.scope := rfl
  simp only [reverseEntries, RelationMethod.reverses, RelationMethod.note, Method.renamed,
    Method.withInternal, Method.returningArray, ← hname]
  by_cases h : "create".toList <:+: (rel.reverseName m.declaredName).toList
  · rw [if_pos h, if_pos (mentionsCreate_iff.2 h)]
  · rw [if_neg h, if_neg (mt mentionsCreate_iff.1 h)]

theorem marked_cases (hx : m.methods[k]? = some x) :
    m.marked r o base k x = x ∨ ∃ rel, RelationMethod.parse? x.name = some rel ∧
      m.marked r o base k x = { x with internal := some (rel.note m.name) } := by
  unfold marked
  cases ha : m.attachment? r o base k with
  | none => exact .inl rfl
  | some a =>
    obtain ⟨hx', hrel, -⟩ := attachment?_eq_some_iff.1 ha
    rw [hx] at hx'
    cases hx'
    exact .inr ⟨a.rel, hrel, rfl⟩

namespace Resolved

variable (h : m.Resolved r o base m.methods.length received n)
include h

theorem getElem?_methods (hx : m.methods[k]? = some x) :
    n.methods[k]? = some (m.marked r o base k x) := by
  have hk : k < m.methods.length := (List.getElem?_eq_some_iff.1 hx).1
  rw [h.methods, List.getElem?_append_left (by simpa using hk), getElem?_ownMethods, hx]
  simp [hk]

omit h in
theorem internal_isSome_iff (hnone : x.internal = none) :
    (m.marked r o base k x).internal.isSome = (m.attachment? r o base k).isSome := by
  unfold marked
  cases m.attachment? r o base k with
  | none => simp [hnone]
  | some a => rfl

theorem target_of_attachment {a : Attachment} (ha : m.attachment? r o base k = some a) :
    (n.scope? a.rel.scope).map (·.target) = some a.target.name := by
  have hk : k < m.methods.length :=
    (List.getElem?_eq_some_iff.1 (attachment?_eq_some_iff.1 ha).1).1
  obtain ⟨d, hd⟩ := slotAt_of_mem_attachments (Nat.le_refl _) (mem_attachments.2 ⟨k, hk, ha⟩)
  rw [scope?, h.slots, hd]
  rfl

theorem sent_eq_of_marked (hunmarked : ∀ x ∈ m.methods, x.internal = none) (name : String) :
    ((m.methods.zip n.methods).flatMap fun (x, y) =>
      match RelationMethod.parse? x.name with
      | some rel =>
        if y.internal.isSome ∧ (n.scope? rel.scope).map (·.target) = some name then
          m.reverseEntries rel x
        else []
      | none => []) = m.sent r o base m.methods.length name := by
  have hlen : (m.methods.zip n.methods).length = m.methods.length := by
    rw [List.length_zip, h.methods, List.length_append, length_ownMethods]
    exact Nat.min_eq_left (Nat.le_add_right _ _)
  rw [sent, ← hlen]
  symm
  apply flatMap_range_length
  rintro k ⟨x, y⟩ hxy
  have hx : m.methods[k]? = some x := (List.getElem?_zip_eq_some.1 hxy).1
  have hy : n.methods[k]? = some y := (List.getElem?_zip_eq_some.1 hxy).2
  rw [h.getElem?_methods hx] at hy
  obtain rfl := Option.some.inj hy
  have hint : (m.marked r o base k x).internal.isSome = (m.attachment? r o base k).isSome :=
    internal_isSome_iff (hunmarked x (List.mem_of_getElem? hx))
  rw [reversesAt]
  cases ha : m.attachment? r o base k with
  | none =>
    rw [ha, Option.isSome_none] at hint
    cases hrel : RelationMethod.parse? x.name with
    | none => simp only [hrel]
    | some rel => simp only [hrel, hint, Bool.false_eq_true, false_and, if_false]
  | some a =>
    rw [ha, Option.isSome_some] at hint
    obtain ⟨hx', hrel, -⟩ := attachment?_eq_some_iff.1 ha
    rw [hx] at hx'
    cases hx'
    simp only [hrel, hint, h.target_of_attachment ha, true_and, Option.some.injEq,
      reverseEntries_eq]

end Resolved

end Model

namespace Registry

variable (r : Registry) (o : Options)

theorem reversesOfMarked_eq (name : String) :
    (r.unresolved o).reversesOfMarked (r.resolved o) name =
      (r.unresolved o).reversesFor r o name := by
  apply flatMap_zip_eq
  · exact (ModelSet.length_resolveScopes (fresh_unresolved r o)).symm
  · intro i m n hm hn
    obtain ⟨n', hn', h⟩ := ModelSet.exists_resolved (o := o) (fresh_unresolved r o) hm
    obtain rfl := Option.some.inj (hn.symm.trans hn')
    exact h.sent_eq_of_marked ((fresh_unresolved r o).unmarked m (List.mem_of_getElem? hm)) name

/-- Resolving changes methods and slots only.  A model keeps its own methods in place, some with the
note of their accessor; behind them come the reverse methods of all methods that got a note and lead
to it, in order.  None of those is a relation method, and so none is resolved in turn. -/
theorem methods_resolved :
    (r.resolved o).map Model.frame = (r.unresolved o).map Model.frame ∧
      ∀ (i : Nat) (m n : Model), (r.unresolved o)[i]? = some m → (r.resolved o)[i]? = some n →
        ∃ own, n.methods = own ++ (r.unresolved o).reversesOfMarked (r.resolved o) n.name ∧
          List.Forall₂ (fun x y : Method => x.internal = none ∧
            (y = x ∨ ∃ rel, RelationMethod.parse? x.name = some rel ∧
              y = { x with internal := some s!"Use {n.name}.{rel.apiName}() instead." }))
            m.methods own ∧
          ∀ y ∈ (r.unresolved o).reversesOfMarked (r.resolved o) n.name,
            RelationMethod.parse? y.name = none := by
  have hfresh := fresh_unresolved r o
  refine ⟨(ModelSet.reached_resolveScopes hfresh).frame, ?_⟩
  intro i m n hm hn
  obtain ⟨n', hn', h⟩ := ModelSet.exists_resolved (o := o) hfresh hm
  obtain rfl := Option.some.inj (hn.symm.trans hn')
  refine ⟨m.ownMethods r o (r.unresolved o) m.methods.length, ?_, ?_, ?_⟩
  · rw [h.methods, reversesOfMarked_eq, Model.name_eq h.frame]
  · apply List.forall₂_iff_get.2
    refine ⟨by simp, ?_⟩
    intro k hk _
    have hx : m.methods[k]? = some m.methods[k] := List.getElem?_eq_getElem hk
    refine ⟨hfresh.unmarked m (List.mem_of_getElem? hm) _ (List.getElem_mem hk), ?_⟩
    have hy : (m.ownMethods r o (r.unresolved o) m.methods.length)[k] =
        m.marked r o (r.unresolved o) k m.methods[k] := by simp [Model.ownMethods, hk]
    rw [List.get_eq_getElem, List.get_eq_getElem, hy, Model.name_eq h.frame]
    exact Model.marked_cases hx
  · intro y hy
    rw [reversesOfMarked_eq] at hy
    obtain ⟨m', -, hy⟩ := List.mem_flatMap.1 hy
    obtain ⟨k, -, hy⟩ := List.mem_flatMap.1 hy
    exact ModelSet.parse?_of_mem_reversesAt hy

/-- A part keeps its four methods, two of them with a note, and three lead back to it. -/
theorem methods_resolved_parts :
    ∃ m ∈ parts.unresolved .default, ∃ n ∈ parts.resolved .default, ∃ own reverses,
      (parts.unresolved .default).reversesOfMarked (parts.resolved .default) n.name = reverses ∧
        n.methods = own ++ reverses ∧
        List.Forall₂ (fun x y : Method => x.internal = none ∧
          (y = x ∨ ∃ rel, RelationMethod.parse? x.name = some rel ∧
            y = { x with internal := some s!"Use {n.name}.{rel.apiName}() instead." }))
          m.methods own ∧
        (own.map fun y => (y.name, y.internal)) = [
          ("prototype.__count__subparts", none),
          ("prototype.__create__subparts", some "Use Shop.part.subparts.create() instead."),
          ("prototype.__get__label", none),
          ("prototype.__get__subparts", some "Use Shop.part.subparts() instead.")] ∧
        reverses.map (·.name) = ["::create::shop.part::subparts",
          "::createMany::shop.part::subparts", "::get::shop.part::subparts"] := by
  have hm := List.getElem?_eq_getElem (l := parts.unresolved .default) (i := 0) (by decide)
  have hn := List.getElem?_eq_getElem (l := parts.resolved .default) (i := 0) (by decide)
  obtain ⟨own, hmethods, hown, -⟩ := (methods_resolved parts .default).2 0 _ _ hm hn
  have hcount : own.length = 4 := hown.length_eq.symm.trans (by decide)
  refine ⟨_, List.mem_of_getElem? hm, _, List.mem_of_getElem? hn, own, _, rfl, hmethods, hown, ?_,
    by decide⟩
  rw [← List.take_left' hcount, ← hmethods]
  decide

end Registry

end AngularClient
