/-! Log records: what the library tells about its work, beside its answers. -/
namespace Walkthrough

/-- How grave a record is. -/
inductive LogLevel
  | debug
  | info
  | warning
  | error
  deriving DecidableEq, Repr

/-- Which part of the library a record comes from. -/
inductive LogSource
  | validation
  | step
  | page
  | run
  | outcome
  deriving DecidableEq, Repr

structure LogRecord where
  level : LogLevel
  source : LogSource
  message : String
  deriving DecidableEq, Repr

end Walkthrough
