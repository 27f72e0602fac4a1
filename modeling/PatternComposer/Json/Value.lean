/-! # JSON values -/

namespace PatternComposer.Json

/-- A value. Numbers written as integers within 64 bits are kept exact. -/
inductive Value where
  | null
  | bool (b : Bool)
  | int (n : Int)
  | float (x : Float)
  | string (s : String)
  | array (items : List Value)
  /-- Members in the order in which they are written; of two with one key the last one counts. -/
  | object (members : List (String × Value))
deriving Inhabited

end PatternComposer.Json
