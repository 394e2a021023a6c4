import CheckDoc.Document.Sites
import CheckDoc.Graph.Cycles

/-!
# The names of a Check

What the references of a Check can name: its facts, its values, and the identifiers of the
environment. Where a name is declared twice the first declaration counts. A value depends on the
values that its conditions refer to, and `Names.cycles` lists the cycles of that relation.
-/

namespace CheckDoc

/-- The identifiers of the environment that are always known. -/
def defaultEnv : List String :=
  ["provider", "target_type", "cluster_type", "architecture_type", "ensa_version",
   "filesystem_type"]

/-- The declarations that references are looked up in. -/
structure Names where
  /-- The facts in order. -/
  facts : List Fact
  /-- The values in order. -/
  values : List Value
  /-- The identifiers of the environment. -/
  env : List String

/-- The names of a Check in an environment. -/
def Check.names (c : Check) (env : List String) : Names := ⟨c.facts, c.values, env⟩

namespace Names

/-- The fact of a name. -/
def fact? (ns : Names) (name : String) : Option Fact := ns.facts.find? fun f => f.name = name

/-- The value of a name. -/
def value? (ns : Names) (name : String) : Option Value := ns.values.find? fun v => v.name = name

/-- Whether a reference names a declaration. -/
def resolves (ns : Names) (r : Reference) : Bool :=
  match r.scope with
  | .facts => (ns.fact? r.identifier).isSome
  | .values => (ns.value? r.identifier).isSome
  | .env => ns.env.contains r.identifier

/-- The references that name nothing, each with its site, in order. -/
def unresolved (ns : Names) (sites : List Site) : List (Site × Reference) :=
  sites.flatMap fun s => (s.references.filter fun r => !ns.resolves r).map fun r => (s, r)

/-- The declared values that the conditions of the value `name` refer to, itself left out. -/
def dependenciesOf (ns : Names) (sites : List Site) (name : String) : List String :=
  let refs :=
    (sites.filter fun s => s.place.isValue && s.place.owner = name).flatMap Site.references
  ((refs.filter fun r =>
      r.scope = .values && r.identifier ≠ name && ns.resolves r).map (·.identifier)).eraseDups

/-- The values with the values that they depend on. -/
def dependencies (ns : Names) (sites : List Site) : Digraph :=
  (ns.values.map (·.name)).eraseDups.map fun name => (name, ns.dependenciesOf sites name)

/-- The cycles of the dependencies. -/
def cycles (ns : Names) (sites : List Site) : List (List String) := (ns.dependencies sites).cycles

end Names

end CheckDoc
