import AngularClient.Model.Basic
import AngularClient.Options.Basic
import AngularClient.Text.Basic
import AngularClient.Text.Case

/-! Resolving relations.  A method `prototype.__op__relation` of a model works on the instances of
another model.  It is recorded in the slot of its relation under the name of an accessor; the model
that the relation leads to gets a reverse method that the accessor calls; and the method itself is
marked internal, with a note that names the accessor.

The first method that decides the slot of a relation decides it for good: later ones follow its
target, or stay as they are if it was skipped. -/

namespace AngularClient

def instanceMark : String := "prototype."

def bareMethodName (name : String) : String :=
  if instanceMark.toList.isPrefixOf name.toList then
    String.ofList (name.toList.drop instanceMark.toList.length)
  else name

structure RelationMethod where
  op : String
  scope : String
  deriving DecidableEq

namespace RelationMethod

def parse? (name : String) : Option RelationMethod :=
  let start := "prototype.__".toList
  if start.isPrefixOf name.toList then
    let rest := name.toList.drop start.length
    let op := rest.takeWhile (· != '_')
    match rest.dropWhile (· != '_') with
    | '_' :: '_' :: scope =>
      if op.isEmpty || scope.isEmpty || scope.contains '\n' then none
      else some ⟨String.ofList op, String.ofList scope⟩
    | _ => none
  else none

def name (r : RelationMethod) : String := "prototype.__" ++ r.op ++ "__" ++ r.scope

def apiName (r : RelationMethod) : String :=
  if r.op = "get" then r.scope
  else if r.op = "delete" then r.scope ++ ".destroyAll"
  else r.scope ++ "." ++ r.op

def reverseName (r : RelationMethod) (declared : String) : String :=
  "::" ++ r.op ++ "::" ++ Text.lower declared ++ "::" ++ r.scope

end RelationMethod

def mentionsCreate (s : String) : Bool := Text.occursIn "create".toList s.toList

def toCreateMany (s : String) : String :=
  String.ofList (Text.replaceFirst "create".toList "createMany".toList s.toList)

inductive Effect
  | pass
  | skip
  | attach (target : Nat)
  deriving DecidableEq

namespace RelationMethod

variable (rel : RelationMethod)

def note (display : String) : String := s!"Use {display}.{rel.apiName}() instead."

def excludedBy (r : Registry) (target : Model) (method : String) : Bool :=
  match r.class? target.declaredName with
  | some c => !c.exposes (bareMethodName method)
  | none => false

def effect (r : Registry) (o : Options) (set : ModelSet) (source : Model) (method : Method)
    (targetClass : String) : Effect :=
  match source.scopes.find? rel.scope with
  | some .skipped => .pass
  | some (.resolved scope) =>
    match set.position? scope.target with
    | some t => .attach t
    | none => .pass
  | none =>
    match set.positionIgnoringCase? (o.displayName targetClass) with
    | none => .skip
    | some t =>
      if set[t]?.any fun target => excludedBy r target method.name then .pass else .attach t

def reverses (source : Model) (method : Method) : List Method :=
  let name := rel.reverseName source.declaredName
  let note := rel.note source.name
  let reverse := (method.renamed name).withInternal (some note)
  if mentionsCreate name then
    [reverse, (reverse.returningArray (toCreateMany name)).withInternal (some (toCreateMany note))]
  else [reverse]

def record (source : Model) (method : Method) (operations : Dictionary Method) :
    Dictionary Method :=
  let name := rel.reverseName source.declaredName
  let clone := (method.renamed name).exposed
  let operations := operations.insert rel.apiName clone
  if mentionsCreate name then
    operations.insert (toCreateMany rel.apiName) (clone.returningArray (toCreateMany name))
  else operations

def attachTo (target : String) (k : Nat) (method : Method) (source : Model) : Model :=
  let scope := (source.scope? rel.scope).getD ⟨target, []⟩
  let scope := { scope with methods := rel.record source method scope.methods }
  { source with
    methods := source.methods.modify k (·.withInternal (some (rel.note source.name)))
    scopes := source.scopes.insert rel.scope (.resolved scope) }

end RelationMethod

namespace ModelSet

def resolveMethod (r : Registry) (o : Options) (i k : Nat) (set : ModelSet) : ModelSet :=
  let resolved : Option ModelSet := do
    let source ← set[i]?
    let declaration ← r.class? source.declaredName
    let method ← source.methods[k]?
    let rel ← RelationMethod.parse? method.name
    let targetClass ← declaration.relationTarget rel.scope
    match rel.effect r o set source method targetClass with
    | .pass => none
    | .skip =>
      return set.modify i fun m => { m with scopes := m.scopes.insert rel.scope .skipped }
    | .attach t =>
      let target ← set[t]?
      return (set.modify i (rel.attachTo target.name k method)).modify t fun m =>
        { m with methods := m.methods ++ rel.reverses source method }
  resolved.getD set

/-- Resolves the methods that a model has when its turn comes; reverse methods it gets meanwhile are
not looked at. -/
def resolveModel (r : Registry) (o : Options) (set : ModelSet) (i : Nat) : ModelSet :=
  let count := (set[i]?.map (·.methods.length)).getD 0
  (List.range count).foldl (fun set k => resolveMethod r o i k set) set

def resolveScopes (r : Registry) (o : Options) (set : ModelSet) : ModelSet :=
  (List.range set.length).foldl (resolveModel r o) set

end ModelSet

end AngularClient
