import AngularClient.Proofs.Relation.Origin
import AngularClient.Proofs.Text.Comment
import AngularClient.Proofs.View.OfModels

namespace AngularClient

def ModelView.commentLines (m : ModelView) : List String :=
  m.docLines ++ m.actions.flatMap (fun a => a.docLines ++ a.params) ++
    m.scopes.flatMap fun s => s.operations.flatMap fun x => x.docLines ++ x.params

def ModelView.deprecations (m : ModelView) : List String := m.actions.filterMap (·.deprecated)

variable {d : Dialect} {o : Options} {set : ModelSet} {v : ModuleView} {m : ModelView} {n : Model}
  {s : String}

theorem Method.leavesOpen {x : Method} (hs : s ∈ Text.commentLines x.description ∨
    s ∈ x.accepts.map (·.comment)) : Text.LeavesOpen s := by
  rcases hs with hs | hs
  · exact Text.leavesOpen_of_mem_commentLines hs
  · obtain ⟨p, -, rfl⟩ := List.mem_map.1 hs
    exact Text.leavesOpen_commentLine _

theorem Model.leavesOpen_view (h : n.view d = .ok m) (hs : s ∈ m.commentLines) :
    Text.LeavesOpen s := by
  obtain ⟨actions, hactions, rfl⟩ := Model.view_eq_ok h
  rw [ModelView.commentLines, List.mem_append, List.mem_append] at hs
  rcases hs with (hs | hs) | hs
  · exact Text.leavesOpen_of_mem_commentLines hs
  · obtain ⟨a, ha, hs⟩ := List.mem_flatMap.1 hs
    obtain ⟨x, -, hx⟩ := exists_of_mem_of_forall₂ hactions.flip ha
    obtain ⟨verb, url, -, -, rfl⟩ := Method.view_eq_ok hx
    exact Method.leavesOpen (List.mem_append.1 hs)
  · obtain ⟨scope, hscope, hs⟩ := List.mem_flatMap.1 hs
    obtain ⟨⟨relation, s'⟩, -, rfl⟩ := List.mem_map.1 hscope
    obtain ⟨operation, hoperation, hs⟩ := List.mem_flatMap.1 hs
    obtain ⟨⟨api, x⟩, -, rfl⟩ := List.mem_map.1 hoperation
    exact Method.leavesOpen (List.mem_append.1 hs)

theorem ModelSet.forall_deprecations_view (h : set.view d o = .ok v) :
    (∀ m ∈ v.models, ∀ s ∈ m.deprecations, Text.LeavesOpen s) ↔
      ∀ n ∈ set, ∀ x ∈ n.methods, ∀ text ∈ x.deprecated, Text.LeavesOpen text := by
  apply Iff.symm
  apply forall_mem_congr_of_forall₂ (ModelSet.forall₂_view h)
  intro n m hm
  have hactions : (∀ s ∈ m.deprecations, Text.LeavesOpen s) ↔
      ∀ a ∈ m.actions, ∀ s ∈ a.deprecated, Text.LeavesOpen s := by
    simp only [ModelView.deprecations, List.mem_filterMap, forall_exists_index, and_imp]
    exact ⟨fun h a ha s hs => h s a ha hs, fun h s a ha hs => h a ha s hs⟩
  obtain ⟨actions, hviews, rfl⟩ := Model.view_eq_ok hm
  rw [hactions]
  apply forall_mem_congr_of_forall₂ hviews
  intro x a ha
  obtain ⟨verb, url, -, -, rfl⟩ := Method.view_eq_ok ha
  simp

namespace Registry

/-- Descriptions and parameters never end a comment.  A note on deprecation does exactly if the text
that declares it, of a method of a class that is kept, holds the end of a comment. -/
theorem comments_left_open_iff (r : Registry) (o : Options) {v : ModuleView}
    (h : r.view o = .ok v) :
    (∀ m ∈ v.models, ∀ s ∈ m.commentLines, Text.LeavesOpen s) ∧
      ((∀ m ∈ v.models, ∀ s ∈ m.deprecations, Text.LeavesOpen s) ↔
        ∀ m ∈ (r.collect o).models, ∃ c, r.kept? o m.name = some c ∧
          ∀ y ∈ c.methods, ∀ text ∈ y.deprecated, Text.LeavesOpen text) := by
  constructor
  · intro m hm s hs
    obtain ⟨n, -, hview⟩ := exists_of_mem_of_forall₂ (ModelSet.forall₂_view h).flip hm
    exact Model.leavesOpen_view hview hs
  · rw [ModelSet.forall_deprecations_view h]
    exact forall_frame_describe (p := fun x => ∀ text ∈ x.deprecated, Text.LeavesOpen text)

/-- Tickets are to be searched, says a note that ends the comment for the action. -/
def tickets : Registry where
  remotingVersion := 3
  classes := [
    { name := "ticket"
      ctor := some ⟨none⟩
      description := some (.text "No */ here.")
      httpPath := none
      prototypeChain := []
      relations := []
      exposedMethods := none
      methods := [
        { name := "find"
          isStatic := true
          accepts := []
          returns := []
          description := none
          deprecated := some "Use search. */ alert(1); /*"
          binding := ⟨some [⟨"get", "/tickets"⟩], none, none⟩ }]
      properties := [] }]

theorem comments_left_open_iff_tickets :
    ∃ v, tickets.view { Options.default with comments := true } = .ok v ∧ v.comments = true ∧
      (∀ m ∈ v.models, ∀ s ∈ m.commentLines, Text.LeavesOpen s) ∧
        ¬ ∀ m ∈ v.models, ∀ s ∈ m.deprecations, Text.LeavesOpen s := by
  generalize ho : { Options.default with comments := true } = o
  cases hv : tickets.view o with
  | error e =>
    subst ho
    have hok : (Except.error? (tickets.view { Options.default with comments := true })).isNone =
        true := by decide +kernel
    rw [hv] at hok
    cases hok
  | ok v =>
    obtain ⟨hlines, hiff⟩ := comments_left_open_iff tickets o hv
    refine ⟨v, rfl, ?_, hlines, ?_⟩
    · obtain ⟨models, -, rfl⟩ := ModelSet.view_eq_ok hv
      rw [← ho]
    · rw [hiff]
      intro hall
      have hkept : tickets.kept? o "Ticket" = tickets.classes.head? := by
        rw [← ho]
        rfl
      obtain ⟨c, hc, hopen⟩ := hall _ (mem_collect_of_kept hkept)
      rw [Model.name_ofClass, hkept] at hc
      cases hc
      exact hopen _ (List.mem_singleton_self _) _ rfl (by decide)

end Registry

end AngularClient
