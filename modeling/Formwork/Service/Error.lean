import Formwork.Form.Check
import Formwork.Submission.Validator

/-!
# Errors of a service
-/

namespace Formwork

/-- Why a service cannot do what it is asked. -/
inductive ServiceError where
  | form (e : FormError)
  /-- The check of a form cannot tell what is wrong with it. -/
  | longInteger
  | build (e : BuildError)
  /-- A submission has an entry that is neither taken nor refused. -/
  | breakdown (e : Breakdown)
  /-- There is no sample because a field offers no choice. -/
  | noChoice
  | tooFewRounds (n : Int)

/-- The error of a check as an error of a service. -/
def CheckError.asError : CheckError → ServiceError
  | refused e => .form e
  | longInteger => .longInteger

end Formwork
