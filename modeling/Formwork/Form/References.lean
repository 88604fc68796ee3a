import Formwork.Form.Basic

/-!
# References between fields

The graph of a form: from the id of a field to every id that its condition refers to. Fields with
the same id share one node.
-/

namespace Formwork

/-- Ids in the order of their first fields, each with what it refers to, without repetition. -/
abbrev ReferenceGraph : Type := List (String × List String)

namespace ReferenceGraph

/-- References and one more, unless it is there already. -/
def addReference (refs : List String) (r : String) : List String :=
  if refs.contains r then refs else refs ++ [r]

/-- The graph with the references of one more field. -/
def addField : ReferenceGraph → Field → ReferenceGraph
  | [], f => [(f.id, f.references.foldl addReference [])]
  | (id, refs) :: g, f =>
    if id == f.id then (id, f.references.foldl addReference refs) :: g
    else (id, refs) :: addField g f

/-- The graph of a list of fields. -/
def ofFields (fields : List Field) : ReferenceGraph := fields.foldl addField []

/-- The ids of the graph. -/
def ids (g : ReferenceGraph) : List String := g.map (·.1)

/-- What an id refers to. -/
def references (g : ReferenceGraph) (id : String) : List String := (g.lookup id).getD []

end ReferenceGraph

end Formwork
