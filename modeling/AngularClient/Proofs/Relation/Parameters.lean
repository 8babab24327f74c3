import AngularClient.Proofs.Relation.Accessors
import AngularClient.Proofs.Relation.Origin

namespace AngularClient

def Model.Holds (n : Model) (x : Method) : Prop :=
  x ∈ n.methods ∨ ∃ relation scope, (relation, scope) ∈ n.resolvedScopes ∧
    ∃ api, (api, x) ∈ scope.methods

namespace Method

structure MadeFrom (declared : String) (y : RemoteMethod) (x : Method) : Prop where
  name : y.Lends declared x.name
  isStatic : x.isStatic = y.isStatic
  description : x.description = (y.description.map (·.normalize)).getD ""
  binding : x.binding = y.binding

/-- What the parameters of a method are, given those of a declared method: instance methods take the
parameters of the constructor first.  Resource parameters are those of the path but for the `id`. -/
structure Parameterized (r : Registry) (declared : String) (y : RemoteMethod) (x : Method) :
    Prop where
  bound : ∀ accepts, x.isStatic = false → r.ctorAccepts declared = some accepts →
    x.accepts = accepts ++ y.accepts
  unbound : x.isStatic = true ∨ r.ctorAccepts declared = none → x.accepts = y.accepts
  resourceParams : x.resourceParams =
    x.accepts.filter fun p => p.source == some .path && p.name != "id"
  hasResourceParams : x.hasResourceParams = true ↔ x.resourceParams ≠ []

variable {r : Registry} {c : ModelClass} {declared owner : String} {y : RemoteMethod} {x : Method}

theorem MadeFrom.exposed (h : x.MadeFrom declared y) : x.exposed.MadeFrom declared y :=
  ⟨h.name, h.isStatic, h.description, h.binding⟩

theorem Parameterized.exposed (h : x.Parameterized r declared y) :
    x.exposed.Parameterized r declared y :=
  ⟨h.bound, h.unbound, h.resourceParams, h.hasResourceParams⟩

theorem parameterized_augment :
    ((ofRemote y owner).augment (r.ctorAccepts declared)).Parameterized r declared y where
  bound := by
    intro accepts hstatic haccepts
    have hstatic' : y.isStatic = false := hstatic
    simp [augment, collectResourceParams, ofRemote, hstatic', haccepts]
  unbound := by
    intro h
    have h' : y.isStatic = true ∨ r.ctorAccepts declared = none := h
    rcases h' with h | h
    · simp [augment, collectResourceParams, ofRemote, h]
    · simp [augment, collectResourceParams, ofRemote, h]
  resourceParams := rfl
  hasResourceParams := by simp [augment, collectResourceParams, ofRemote]

@[simp] theorem parameterized_frame :
    x.frame.Parameterized r declared y ↔ x.Parameterized r declared y := by
  constructor
  · intro h
    exact ⟨h.bound, h.unbound, h.resourceParams, h.hasResourceParams⟩
  · intro h
    exact ⟨h.bound, h.unbound, h.resourceParams, h.hasResourceParams⟩

namespace DescendsFrom

variable (h : x.DescendsFrom r c y)
include h

theorem madeFrom : x.MadeFrom c.name y where
  name := h.name
  isStatic := by
    have hstatic := congrArg Method.isStatic h.frame
    exact hstatic
  description := by
    have hdescription := congrArg Method.description h.frame
    exact hdescription
  binding := by
    have hbinding := congrArg Method.binding h.frame
    exact hbinding

theorem parameterized : x.Parameterized r c.name y := by
  rw [← parameterized_frame, h.frame, parameterized_frame]
  exact parameterized_augment

end DescendsFrom

end Method

namespace Registry

variable {r : Registry} {o : Options} {n : Model} {x : Method} {c : ModelClass} {name : String}

theorem exists_described_of_kept (h : r.kept? o name = some c) :
    ∃ m ∈ r.describe o, m.name = name ∧ m.declaredName = c.name := by
  obtain ⟨m, hm, hbecomes⟩ := exists_described_of_mem
    (List.mem_map_of_mem (f := (·.augment r)) (mem_collect_of_kept h))
  exact ⟨m, hm, hbecomes.name, hbecomes.declaredName⟩

theorem exists_declared_of_holds (hn : n ∈ r.describe o) (hx : n.Holds x) :
    ∃ c, r.kept? o x.owner = some c ∧ ∃ y ∈ c.methods, x.MadeFrom c.name y ∧
      x.Parameterized r c.name y := by
  rcases hx with hx | ⟨relation, scope, hscope, api, hx⟩
  · obtain ⟨c, hc, y, hy, h⟩ := exists_declared hn hx
    exact ⟨c, hc, y, hy, h.madeFrom, h.parameterized⟩
  · obtain ⟨target, htarget, -, z, hz, rfl⟩ := exists_target_of_operation hn hscope hx
    obtain ⟨c, hc, y, hy, h⟩ := exists_declared htarget hz
    exact ⟨c, hc, y, hy, h.madeFrom.exposed, h.parameterized.exposed⟩

/-- Every method that is described, own or reverse, twin or operation, takes the parameters of the
declared method it is made from; before them, once, an instance method takes those that are found
for the constructor of the model which owns it.  Its resource parameters are those among them. -/
theorem parameters_described (r : Registry) (o : Options) :
    ∀ n ∈ r.describe o, ∀ x, n.Holds x →
      ∃ m ∈ r.describe o, m.name = x.owner ∧ ∃ c, r.kept? o m.name = some c ∧
        ∃ y ∈ c.methods, x.MadeFrom m.declaredName y ∧ x.Parameterized r m.declaredName y := by
  intro n hn x hx
  obtain ⟨c, hc, y, hy, hmade, hparameters⟩ := exists_declared_of_holds hn hx
  obtain ⟨m, hm, hname, hdeclared⟩ := exists_described_of_kept hc
  rw [← hname] at hc
  rw [← hdeclared] at hmade hparameters
  exact ⟨m, hm, hname, c, hc, y, hy, hmade, hparameters⟩

/-- Shelves have a constructor with an `id`, and books which are found by a key in the path. -/
def shelves : Registry where
  remotingVersion := 3
  classes := [
    { name := "shelf"
      ctor := some ⟨some [⟨"id", none, true, none, some ⟨some .path⟩⟩]⟩
      description := none
      httpPath := none
      prototypeChain := []
      relations := [("books", ⟨some "book", none⟩)]
      exposedMethods := none
      methods := [{ RemoteMethod.served "prototype.__findById__books" "/shelves/:id/books/:fk" with
        accepts := [⟨"fk", none, true, none, some ⟨some .path⟩⟩] }]
      properties := [] },
    { name := "book"
      ctor := some ⟨some [⟨"isbn", none, true, none, some ⟨some .path⟩⟩]⟩
      description := none
      httpPath := none
      prototypeChain := []
      relations := []
      exposedMethods := none
      methods := []
      properties := [] }]

/-- The reverse method that books get takes the `id` of the shelf and not their own number. -/
theorem parameters_described_shelves :
    ∃ n ∈ shelves.describe .default, n.name = "Book" ∧
      ∃ x ∈ n.methods, x.name = "::findById::shelf::books" ∧
        x.accepts.map (·.name) = ["id", "fk"] ∧ x.resourceParams.map (·.name) = ["fk"] ∧
          ∃ m ∈ shelves.describe .default, m.name = x.owner ∧
            ∃ c, shelves.kept? .default m.name = some c ∧ ∃ y ∈ c.methods,
              x.MadeFrom m.declaredName y ∧ x.Parameterized shelves m.declaredName y := by
  have hany : ((shelves.describe .default).any fun n => n.name == "Book" &&
      n.methods.any fun x => x.name == "::findById::shelf::books" &&
        x.accepts.map (·.name) == ["id", "fk"] &&
          x.resourceParams.map (·.name) == ["fk"]) = true := by
    decide
  simp only [List.any_eq_true, Bool.and_eq_true, beq_iff_eq] at hany
  obtain ⟨n, hn, hname, x, hx, ⟨hxname, haccepts⟩, hparams⟩ := hany
  exact ⟨n, hn, hname, x, hx, hxname, haccepts, hparams,
    parameters_described shelves .default n hn x (.inl hx)⟩

end Registry

end AngularClient
