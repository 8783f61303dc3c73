/-!
# TOML values

Of numbers with a fraction and of dates only the text is kept: nothing here depends on them, but
they must be well formed.
-/

namespace Barometer

inductive Toml where
  | text (value : String)
  | integer (value : Int)
  | real (text : String)
  | bool (value : Bool)
  | moment (text : String)
  | array (items : List Toml)
  | table (entries : List (String × Toml))
deriving Inhabited

end Barometer
