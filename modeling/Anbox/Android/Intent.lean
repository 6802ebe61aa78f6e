import Mathlib.Data.List.Basic

namespace Anbox.Android

structure Intent where
  action : String
  uri : String
  type : String
  package : String
  component : String
  categories : List String
  deriving DecidableEq

end Anbox.Android

namespace Anbox.Bridge

/-- The message `Intent` of `anbox_bridge.proto`. -/
structure IntentMessage where
  action : Option String
  uri : Option String
  type : Option String
  package : Option String
  component : Option String
  categories : List String
  deriving DecidableEq

/-- What is set in a message only when there is something in it. -/
def unlessEmpty (s : String) : Option String := if s = "" then none else some s

@[simp] theorem unlessEmpty_empty : unlessEmpty "" = none := rfl

theorem unlessEmpty_of_ne {s : String} (h : s ≠ "") : unlessEmpty s = some s := if_neg h

end Anbox.Bridge
