import Worksheet.Formula.Error

/-!
# Variable bindings

The variables of a formula, in the order in which they were declared, each with
its value once it has one.  Only declared variables can be given a value.
-/

namespace Worksheet

/-- Declared variables in order of declaration, each with its value if it has one. -/
structure Bindings where
  entries : List (String × Option Float)

namespace Bindings

/-- No variables. -/
def empty : Bindings :=
  ⟨[]⟩

/-- The declared names in order of declaration. -/
def names (bindings : Bindings) : List String :=
  bindings.entries.map Prod.fst

/-- Is a name declared? -/
def contains (bindings : Bindings) (name : String) : Bool :=
  bindings.entries.any fun entry => entry.1 == name

/-- Declare a name without a value.  A name that is declared already keeps its
place and its value. -/
def declare (bindings : Bindings) (name : String) : Bindings :=
  if bindings.contains name then bindings else ⟨bindings.entries ++ [(name, none)]⟩

/-- Give a declared variable a value, in place of an older one. -/
def set (bindings : Bindings) (name : String) (value : Float) :
    Except FormulaError Bindings :=
  if bindings.contains name then
    .ok ⟨bindings.entries.map fun entry => if entry.1 == name then (name, some value) else entry⟩
  else .error (.unknownVariable name)

/-- The value of a variable, if it is declared and has one. -/
def get? (bindings : Bindings) (name : String) : Option Float :=
  (bindings.entries.find? fun entry => entry.1 == name).bind Prod.snd

/-- Declare the names of a list from left to right. -/
def declareAll (bindings : Bindings) (declared : List String) : Bindings :=
  declared.foldl declare bindings

end Bindings

end Worksheet
