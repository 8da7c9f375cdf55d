import Mailroom.Text.Basic

/-!
# Errors of filter expressions

A filter expression is refused for a cause, together with the fragment of the expression that is to
blame.  The wording names the cause, then the fragment.
-/

namespace Mailroom

/-- why an expression is refused -/
inductive FilterCause where
  | emptyFilter
  | emptyBranch
  | emptyTerm
  | badTerm
  | unknownField
  | missingFlag
  | badFlag
  | missingAddress
  | badNumber
  | badDateShape
  | badDate
  | badSizeShape
  | badSizeUnit
  | badSizeNumber
  | sizeTooLarge
deriving DecidableEq, Repr

/-- what kind of mistake a cause is -/
inductive FilterErrorKind where
  | form
  | field
  | value
deriving DecidableEq, Repr

/-- a cause and the fragment to blame -/
structure FilterError where
  cause : FilterCause
  fragment : Text
deriving DecidableEq, Repr

namespace FilterCause

/-- the wording of a cause -/
def message : FilterCause → Text
  | emptyFilter => "Empty filter expression"
  | emptyBranch => "Empty OR branch"
  | emptyTerm => "Empty term"
  | badTerm => "Invalid term"
  | unknownField => "Unknown field"
  | missingFlag => "Missing flag name"
  | badFlag => "Invalid flag name"
  | missingAddress => "Missing address"
  | badNumber => "Invalid number"
  | badDateShape => "Invalid date, expected YYYY-MM-DDTHH.MM.SS"
  | badDate => "Invalid date"
  | badSizeShape => "Invalid file size format"
  | badSizeUnit => "Invalid unit, only 'kb' and 'mb' are supported"
  | badSizeNumber => "Invalid number format in file size"
  | sizeTooLarge => "File size too large"

/-- the kind of mistake -/
def kind : FilterCause → FilterErrorKind
  | emptyFilter | emptyBranch | emptyTerm | badTerm => .form
  | unknownField => .field
  | _ => .value

end FilterCause

namespace FilterError

/-- the wording: the cause, then the fragment -/
def message (e : FilterError) : Text := e.cause.message ++ ": " ++ e.fragment

end FilterError
end Mailroom
