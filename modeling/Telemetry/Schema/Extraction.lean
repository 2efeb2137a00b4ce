/-!
# Why an element of a record cannot be read
-/

namespace Telemetry

inductive ExtractionError
  | missingKey (key : String)
  | notScalar (key : String)
  | invalidNumber (key raw : String)
  | invalidBoolean (key raw : String)
  | invalidTimestamp (key raw format : String)
  deriving DecidableEq, Repr

def ExtractionError.message : ExtractionError → String
  | .missingKey key => "no element found for key " ++ key
  | .notScalar key => "element " ++ key ++ " is not a scalar"
  | .invalidNumber key raw => "element " ++ key ++ " (\"" ++ raw ++ "\") is not a number"
  | .invalidBoolean key raw => "element " ++ key ++ " (\"" ++ raw ++ "\") is not a boolean"
  | .invalidTimestamp key raw format =>
    "timestamp " ++ key ++ " (\"" ++ raw ++ "\") could not be parsed with format " ++ format

end Telemetry
