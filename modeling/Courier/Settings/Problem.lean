namespace Courier.Settings

inductive Problem where
  | bodyLimitZero
  | dispatchQueueZero
  | dispatchQueueLarge (limit : UInt64)
  | outboundQueueZero
  | readBufferSmall
  | readBufferLarge
  | shutdownShort
  | shutdownLong
  | addressEmpty
  | addressInvalid (address : String)
  | connectionsZero
  | nameEmpty
  | nameLong (length : Nat)
  deriving DecidableEq, Repr

def Problem.message : Problem → String
  | .bodyLimitZero => "Max body length must be greater than 0"
  | .dispatchQueueZero => "Dispatch queue limit must be greater than 0"
  | .dispatchQueueLarge limit =>
    "Dispatch queue limit too large: " ++ toString limit ++ " (max recommended: 1,000,000)"
  | .outboundQueueZero => "Outbound queue limit must be greater than 0"
  | .readBufferSmall => "Read buffer size too small (minimum: 64 bytes)"
  | .readBufferLarge => "Read buffer size too large (maximum: 16 MB)"
  | .shutdownShort => "Shutdown timeout too short (minimum: 10ms)"
  | .shutdownLong => "Shutdown timeout too long (maximum: 60s)"
  | .addressEmpty => "Server address cannot be empty"
  | .addressInvalid address =>
    "Invalid server address format: '" ++ address ++ "' (expected format: '0.0.0.0:8080')"
  | .connectionsZero => "Max connections must be greater than 0"
  | .nameEmpty => "Application name cannot be empty"
  | .nameLong length =>
    "Application name too long: " ++ toString length ++ " characters (maximum: 64)"

end Courier.Settings
