/-!
# Failures of the management interface

Each failed call has a class, which is reported and never acted on: nothing is retried within a
run.
-/

namespace OffHours

/-- What kind of failure it is. -/
inductive ErrorClass where
  /-- Throttling, time-outs, server faults and connections that cannot be made. -/
  | transient
  /-- Rejected requests. -/
  | permanent
  /-- An answer that cannot be understood. -/
  | decode
  deriving DecidableEq, Repr

namespace ErrorClass

/-- The label of the class in reports. -/
def label : ErrorClass → String
  | transient => "transient"
  | permanent => "permanent"
  | decode => "decode"

/-- The class in the words of a message. -/
def phrase : ErrorClass → String
  | transient => "transient failure"
  | permanent => "permanent failure"
  | decode => "unreadable response"

end ErrorClass

/-- A failed call of the management interface. -/
structure ApiError where
  /-- What kind of failure it is. -/
  errorClass : ErrorClass
  /-- What was attempted. -/
  operation : String
  /-- On what it was attempted. -/
  target : String
  /-- Why it failed. -/
  reason : String
  deriving DecidableEq, Repr

namespace ApiError

/-- Whether a later attempt may succeed. -/
def isTransient (error : ApiError) : Bool := error.errorClass == .transient

/-- The text of a failure. -/
def message (error : ApiError) : String :=
  error.errorClass.phrase ++ " during " ++ error.operation ++ " on " ++ error.target ++ ": " ++
    error.reason

end ApiError

end OffHours
