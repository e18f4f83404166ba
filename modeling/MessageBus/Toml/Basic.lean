/-!
# TOML values

The value of a TOML document, with the entries of a table in the order in which they were first named.
Of floats and dates only that they are there is kept: no setting is one.
-/
namespace MessageBus
set_option autoImplicit false

inductive Toml
  | string (s : String)
  | integer (n : Int)
  | float
  | bool (b : Bool)
  | datetime
  | array (items : List Toml)
  | table (entries : List (String × Toml))
deriving Inhabited

end MessageBus
