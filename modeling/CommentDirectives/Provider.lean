import CommentDirectives.Layer
import CommentDirectives.Value.Recognition

/-!
# Providers of values

A provider owns all names that start in a certain way and alone answers for them.
The environment is a provider that refuses changes; a shared provider takes them
and keeps them from one file to the next.
-/

namespace CommentDirectives

set_option autoImplicit false

/-- A source of values for all names with a given beginning, which is in lower case. -/
structure Provider where
  realm : String
  writable : Bool
  values : SortedMap String Value

namespace Provider

/-- A provider that takes changes, without values at first. -/
def shared (realm : String) : Provider :=
  { realm := Text.lowercase realm, writable := true, values := SortedMap.empty }

/-- The variables of an environment, under names that start with `env.`; of two variables with
one name the later counts. -/
def environment (pairs : List (String × String)) : Provider :=
  { realm := "env."
    writable := false
    values := pairs.foldl
      (fun values pair =>
        values.insert ("env." ++ Name.normalize pair.1) (Value.recognize pair.2))
      SortedMap.empty }

/-- Whether a name belongs to a provider. -/
def owns (provider : Provider) (name : String) : Bool :=
  provider.realm.toList.isPrefixOf (Name.normalize name).toList

/-- The value of a name. -/
def get? (provider : Provider) (name : String) : Option Value :=
  provider.values.get? (Name.normalize name)

/-- The provider after a name has been given a value, or the reason why it refuses. -/
def set (provider : Provider) (name : String) (value : Value) : Except String Provider :=
  if provider.writable then
    .ok { provider with values := provider.values.insert (Name.normalize name) value }
  else .error ("'" ++ name ++ "' is provided by a read-only source")

/-- The values of a provider in the order of their names. -/
def toList (provider : Provider) : List (String × Value) := provider.values.entries

/-- Some providers after the first one that owns a name has been given a value for it, or the
reason why that one refuses; empty where none of them owns the name. -/
def assignAmong? (name : String) (value : Value) :
    List Provider → Option (Except String (List Provider))
  | [] => none
  | provider :: rest =>
    if provider.owns name then
      some ((provider.set name value).map fun changed => changed :: rest)
    else
      (assignAmong? name value rest).map fun outcome =>
        outcome.map fun changed => provider :: changed

end Provider

end CommentDirectives
