/-!
# Configuration values
-/

namespace FluidStructure.Config

/-- What a key of a configuration section can hold. -/
inductive Value where
  | text (s : String)
  | real (x : Float)
  | int (i : Int32)
  | bool (b : Bool)
  | reals (xs : List Float)
  | ints (is : List Int32)
  | texts (ss : List String)

end FluidStructure.Config
