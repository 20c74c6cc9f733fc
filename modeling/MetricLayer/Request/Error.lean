import MetricLayer.Schema.Error

/-!
# Errors of a request

What is wrong with a request, found while it is read or while it is compiled. Every error is one
that the client can mend by another request.
-/

namespace MetricLayer

/-- The number of values that an operator takes. -/
inductive Arity where
  /-- That number. -/
  | exactly (n : Nat)
  /-- That number or more. -/
  | atLeast (n : Nat)
  deriving DecidableEq, Repr

/-- The words for an arity. -/
def Arity.text : Arity → String
  | exactly n => "exactly " ++ toString n
  | atLeast n => "at least " ++ toString n

/-- What is wrong with a date range. -/
inductive DateRangeFault where
  /-- The text is not an ISO date, with or without a time. -/
  | notIsoDate (text : String)
  /-- The lower bound lies after the upper bound. -/
  | inverted (lower upper : String)
  /-- The upper bound is the last day that there is. -/
  | noFollowingDay (text : String)
  deriving DecidableEq, Repr

/-- The words for a fault of a date range. -/
def DateRangeFault.text : DateRangeFault → String
  | notIsoDate text => "'" ++ text ++ "' is not an ISO date (YYYY-MM-DD[ HH:MM[:SS]])"
  | inverted lower upper => "'" ++ lower ++ "' is after '" ++ upper ++ "'"
  | noFollowingDay text => "'" ++ text ++ "' has no following day"

/-- What is wrong with the form of a request. -/
inductive RequestFault where
  /-- The text is not JSON, or not of the form of a request. -/
  | malformed
  /-- There is more than one time dimension. -/
  | severalTimeDimensions
  /-- An order entry has neither one nor two elements. -/
  | orderEntryLength (n : Nat)
  /-- The number of rows in a field is too large. -/
  | tooLarge (field : String)
  /-- The schema is at fault. -/
  | schema (e : SchemaError)
  deriving DecidableEq, Repr

/-- The greatest number of rows that a query can name. -/
def maxRows : Nat := 0x7fffffffffffffff

/-- The words for a fault of the form. -/
def RequestFault.text : RequestFault → String
  | malformed => "<json>"
  | severalTimeDimensions => "at most one time dimension is supported"
  | orderEntryLength n =>
    "order entries are [member, direction], got " ++ toString n ++ " element(s)"
  | tooLarge field => field ++ " must not exceed " ++ toString maxRows
  | schema e => e.message

/-- What is wrong with a request. -/
inductive RequestError where
  /-- The name is neither that of a measure nor of a dimension, as its place demands. -/
  | unknownIdentifier (id : String)
  /-- A filter or a date range has a wrong number of values. -/
  | arity (subject : String) (expected : Arity) (actual : Nat)
  /-- The keyword is not that of a filter operator. -/
  | unsupportedOperator (keyword : String)
  /-- The keyword is not that of a granularity. -/
  | unsupportedGranularity (keyword : String)
  /-- The keyword is not that of a sort direction. -/
  | unsupportedDirection (keyword : String)
  /-- No declared path leads from the primary table to a table that is needed. -/
  | unreachableJoin (primary table : String)
  /-- The request selects nothing. -/
  | emptySelection
  /-- The dimension of the time clause is not a time dimension. -/
  | notATimeDimension (id : String)
  /-- The identifier, or its column name, occurs twice in the selection. -/
  | duplicateIdentifier (id : String)
  /-- The order key names no selected column. -/
  | orderKeyNotSelected (key : String)
  /-- The date range is at fault. -/
  | invalidDateRange (fault : DateRangeFault)
  /-- There is an offset and no limit. -/
  | offsetWithoutLimit
  /-- The form of the request is at fault. -/
  | invalidRequest (fault : RequestFault)
  deriving DecidableEq, Repr

/-- The message of an error. -/
def RequestError.message : RequestError → String
  | unknownIdentifier id => "Unknown identifier: " ++ id
  | arity subject expected actual =>
    "Operator '" ++ subject ++ "' expects " ++ expected.text ++ " value(s), got " ++
      toString actual
  | unsupportedOperator keyword => "Unsupported filter operator: " ++ keyword
  | unsupportedGranularity keyword => "Unsupported granularity: " ++ keyword
  | unsupportedDirection keyword => "Unsupported sort direction: " ++ keyword
  | unreachableJoin primary table => "No join path from '" ++ primary ++ "' to '" ++ table ++ "'"
  | emptySelection => "Request selects no measures, dimensions or time dimension"
  | notATimeDimension id => "'" ++ id ++ "' is not a time dimension"
  | duplicateIdentifier id => "Identifier listed more than once: " ++ id
  | orderKeyNotSelected key => "Order key '" ++ key ++ "' is not part of the selection"
  | invalidDateRange fault => "Invalid date range: " ++ fault.text
  | offsetWithoutLimit => "Offset requires a limit"
  | invalidRequest fault => "Invalid request: " ++ fault.text

/-- The error of a request for an error of the schema: a failed look-up is an unknown name. The
other errors are those of building a registry, which a registry that is built does not give. -/
def RequestError.ofSchema : SchemaError → RequestError
  | .measureNotFound id => unknownIdentifier id
  | .dimensionNotFound id => unknownIdentifier id
  | e => invalidRequest (.schema e)

end MetricLayer
