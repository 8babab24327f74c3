import AngularClient.Model.Described
import AngularClient.Proofs.Model.Collection

namespace AngularClient.Method

/-- What becomes of a method: an instance method takes the parameters of the constructor first, and
of all that it then accepts, those of the path but for the `id` become resource parameters too. -/
structure Augments (ctorAccepts : Option (List Parameter)) (m x : Method) : Prop where
  bound : ∀ accepts, m.isStatic = false → ctorAccepts = some accepts →
    x.accepts = accepts ++ m.accepts
  unbound : m.isStatic = true ∨ ctorAccepts = none → x.accepts = m.accepts
  resourceParams : x.resourceParams =
    m.resourceParams ++ x.accepts.filter fun p => p.source == some .path && p.name != "id"
  hasResourceParams : x.hasResourceParams = true ↔
    m.hasResourceParams = true ∨ ∃ p ∈ x.accepts, p.source = some .path ∧ p.name ≠ "id"
  frame : x = { m with
    accepts := x.accepts
    resourceParams := x.resourceParams
    hasResourceParams := x.hasResourceParams }

variable {ctorAccepts : Option (List Parameter)} {methods : List Method}

theorem augments_augment (ctorAccepts : Option (List Parameter)) (m : Method) :
    Augments ctorAccepts m (m.augment ctorAccepts) where
  bound := by
    intro accepts hstatic haccepts
    simp [augment, collectResourceParams, hstatic, haccepts]
  unbound := by
    rintro (h | h)
    · simp [augment, collectResourceParams, h]
    · simp [augment, collectResourceParams, h]
  resourceParams := rfl
  hasResourceParams := by
    have hflag : (m.augment ctorAccepts).hasResourceParams = (m.hasResourceParams ||
      !((m.augment ctorAccepts).accepts.filter (·.isResource)).isEmpty) := rfl
    rw [hflag, Bool.or_eq_true, Bool.not_eq_true', List.isEmpty_eq_false_iff_exists_mem]
    simp only [List.mem_filter, Parameter.isResource, Bool.and_eq_true, beq_iff_eq, bne_iff_ne]
  frame := rfl

theorem isSome_createTwin?_iff :
    (createTwin? methods).isSome = true ↔ methods.countP (·.name == "create") = 1 := by
  rw [List.countP_eq_length_filter, List.length_eq_one_iff, createTwin?]
  split
  · next create h => simp [h]
  · next h => simpa using h

@[simp] theorem countP_augment (ctorAccepts : Option (List Parameter)) (methods : List Method) :
    (methods.map (augment ctorAccepts)).countP (·.name == "create") =
      methods.countP (·.name == "create") := by
  rw [List.countP_map]
  rfl

/-- Augmenting changes each method in its place, and appends the array-returning twin of the method
called `create` if there is exactly one, and else nothing. -/
theorem augmented_in_place (ctorAccepts : Option (List Parameter)) (methods : List Method) :
    ∃ entries, List.Forall₂ (Augments ctorAccepts) methods entries ∧
      (methods.countP (·.name == "create") = 1 → ∃ create ∈ entries, create.name = "create" ∧
        augmentAll ctorAccepts methods =
          entries ++ [{ create with name := "createMany", returnsArray := true }]) ∧
      (methods.countP (·.name == "create") ≠ 1 → augmentAll ctorAccepts methods = entries) ∧
      ((augmentAll ctorAccepts methods).length = methods.length + 1 ↔
        methods.countP (·.name == "create") = 1) := by
  have hentries : List.Forall₂ (Augments ctorAccepts) methods (methods.map (augment ctorAccepts)) :=
    List.forall₂_map_right_iff.2 (List.forall₂_same.2 fun m _ => augments_augment ctorAccepts m)
  have htwin : (createTwin? (methods.map (augment ctorAccepts))).isSome = true ↔
      methods.countP (·.name == "create") = 1 := by
    rw [isSome_createTwin?_iff, countP_augment]
  refine ⟨methods.map (augment ctorAccepts), hentries, ?_, ?_, ?_⟩
  · intro hone
    obtain ⟨twin, htwin⟩ := Option.isSome_iff_exists.1 (htwin.2 hone)
    obtain ⟨create, hcreate, hname, rfl⟩ := exists_create_of_mem_createTwin? htwin
    refine ⟨create, hcreate, hname, ?_⟩
    rw [augmentAll, addCreateMany, htwin]
    rfl
  · intro hnone
    rw [ne_eq, ← htwin, Bool.not_eq_true, Option.isSome_eq_false_iff,
      Option.isNone_iff_eq_none] at hnone
    rw [augmentAll, addCreateMany, hnone, Option.toList_none, List.append_nil]
  · rw [← htwin, augmentAll, addCreateMany, List.length_append, List.length_map]
    cases createTwin? (methods.map (augment ctorAccepts)) <;> simp

/-- Methods of carts: their `create` is an instance method that takes a key in the path, and it comes
with a resource parameter. -/
def cartMethods : List Method :=
  let find : Method :=
    { name := "find"
      isStatic := true
      accepts := [⟨"filter", none, false, none, none⟩]
      returnsArray := true
      description := ""
      deprecated := none
      internal := none
      resourceParams := []
      hasResourceParams := false
      binding := ⟨none, none, none⟩
      owner := "Cart" }
  [find, { find with
    name := "create"
    isStatic := false
    accepts := [⟨"fk", none, true, none, some ⟨some .path⟩⟩]
    returnsArray := false
    resourceParams := [⟨"shop", none, true, none, some ⟨some .path⟩⟩]
    hasResourceParams := true }]

/-- The constructor has a parameter of the path beside the `id`, and so have `create` and its twin. -/
theorem augmented_in_place_carts :
    let bound : List Parameter :=
      [⟨"id", none, true, none, some ⟨some .path⟩⟩, ⟨"realm", none, true, none, some ⟨some .path⟩⟩]
    (augmentAll (some bound) cartMethods).map (fun x => x.resourceParams.map (·.name)) =
        [[], ["shop", "realm", "fk"], ["shop", "realm", "fk"]] ∧
      ∃ entries, List.Forall₂ (Augments (some bound)) cartMethods entries ∧
        ∃ create ∈ entries, create.name = "create" ∧ augmentAll (some bound) cartMethods =
          entries ++ [{ create with name := "createMany", returnsArray := true }] := by
  intro bound
  obtain ⟨entries, hentries, htwin, -⟩ := augmented_in_place (some bound) cartMethods
  exact ⟨by decide, entries, hentries, htwin (by decide)⟩

end AngularClient.Method
