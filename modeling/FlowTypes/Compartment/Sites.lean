import FlowTypes.Compartment.Propagation

/-!
# Registered call sites

Call constraints name a site by its place in a table.  The `this` types and the result of a site
get a set of their own when they are first asked for.
-/

namespace FlowTypes

namespace Compartment

/-- Enters a call site in the table. -/
def newCallSite (s : CallSite) : Action SiteId := fun c =>
  (.ok ⟨c.sites.size⟩, { c with sites := c.sites.push s })

/-- The set of the `this` types of a site. -/
def forceThisTypes (id : SiteId) : Action SetId := do
  match ((← get).site id).thisTypes with
  | some types => return types
  | none =>
    let types ← newSet
    modify (·.changeSite id fun s => { s with thisTypes := some types })
    return types

/-- The set that the result of a site goes to. -/
def forceResult (id : SiteId) : Action SetId := do
  match ((← get).site id).result with
  | some types => return types
  | none =>
    let types ← newSet
    modify (·.changeSite id fun s => { s with result := some types })
    return types

end Compartment

end FlowTypes
