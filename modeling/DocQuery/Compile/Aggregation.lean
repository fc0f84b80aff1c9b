import DocQuery.Stage.Codec
import DocQuery.Value.Printer
set_option autoImplicit false

/-!
# Compile: aggregations

What a query is compiled to: a pipeline and the collection that it starts from.
-/

namespace DocQuery

/-- A pipeline on a collection. -/
structure Aggregation where
  collection : String
  pipeline : List Stage
  deriving Inhabited

/-- An aggregation as it is written in a database shell. -/
def Aggregation.print (style : Value.Style) (a : Aggregation) : String :=
  "db." ++ a.collection ++ ".aggregate(" ++ (Stage.toDocuments a.pipeline).print style ++ ")"

end DocQuery
