import CommentDirectives.Name
import CommentDirectives.SortedMap
import CommentDirectives.Value

/-!
# Layers of variables

A layer holds values under normalized names.  There is one layer for each file
that is processed and one that all files share.
-/

namespace CommentDirectives

set_option autoImplicit false

/-- Values under normalized names. -/
structure Layer where
  values : SortedMap String Value

namespace Layer

/-- The layer without variables. -/
def empty : Layer := ⟨SortedMap.empty⟩

instance : Inhabited Layer := ⟨empty⟩

/-- The value of a name. -/
def get? (layer : Layer) (name : String) : Option Value :=
  layer.values.get? (Name.normalize name)

/-- Whether a name has a value. -/
def contains (layer : Layer) (name : String) : Bool := (layer.get? name).isSome

/-- The layer after a name has been given a value. -/
def set (layer : Layer) (name : String) (value : Value) : Layer :=
  ⟨layer.values.insert (Name.normalize name) value⟩

/-- The layer without a name. -/
def remove (layer : Layer) (name : String) : Layer :=
  ⟨layer.values.erase (Name.normalize name)⟩

/-- The number of variables. -/
def size (layer : Layer) : Nat := layer.values.size

/-- Whether there are no variables. -/
def isEmpty (layer : Layer) : Bool := layer.values.isEmpty

/-- The variables in the order of their names. -/
def toList (layer : Layer) : List (String × Value) := layer.values.entries

/-- A layer after some assignments, in order. -/
def setAll (layer : Layer) (assignments : List (String × Value)) : Layer :=
  assignments.foldl (fun layer assignment => layer.set assignment.1 assignment.2) layer

/-- The layer of some assignments, of which the last for a name counts. -/
def ofList (assignments : List (String × Value)) : Layer := empty.setAll assignments

end Layer

end CommentDirectives
