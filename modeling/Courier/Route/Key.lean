namespace Courier.Route

inductive Key where
  | exact (id : UInt16) (kind : UInt8)
  | anyId (kind : UInt8)
  deriving DecidableEq, Repr

def Key.describe : Key → String
  | .exact id kind =>
    "RouteKey \x7b id: Some(" ++ toString id ++ "), kind: " ++ toString kind ++ " \x7d"
  | .anyId kind => "RouteKey \x7b id: None, kind: " ++ toString kind ++ " \x7d"

end Courier.Route
