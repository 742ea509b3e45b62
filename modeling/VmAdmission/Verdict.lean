import VmAdmission.Reason

/-!
# Verdicts

A check, and in the end a whole operation, is accepted or rejected for a reason, with the values
that fill in the reason's message.
-/

namespace VmAdmission

/-- A placeholder of a message, and the value that takes its place. -/
structure Substitution where
  placeholder : String
  value : String
deriving DecidableEq

namespace Substitution

/-- The line that shows a substitution. -/
def render (s : Substitution) : String := "$" ++ s.placeholder ++ " " ++ s.value

/-- The fields of a substitution. -/
def fields : Codec.Fields Substitution [String, String] :=
  .cons (.required "placeholder" .text Substitution.placeholder) <|
  .cons (.required "value" .text Substitution.value) .nil

/-- The codec of substitutions. -/
def codec : Codec Substitution :=
  .record false fields fun (placeholder, value, _) => { placeholder, value }

end Substitution

/-- Why something was rejected. -/
structure Rejection where
  reason : Reason
  params : List Substitution
deriving DecidableEq

namespace Rejection

/-- The substitutions of a rejection, which are written only if there are any. -/
def paramsField : Codec.Field Rejection (List Substitution) :=
  { Codec.Field.defaulting "params" Substitution.codec.list Rejection.params [] with
    isOmitted := List.isEmpty }

/-- The fields of a rejection. -/
def fields : Codec.Fields Rejection [Reason, List Substitution] :=
  .cons (.required "reason" Reason.codec Rejection.reason) <| .cons paramsField .nil

/-- The codec of rejections. -/
def codec : Codec Rejection := .record false fields fun (reason, params, _) => { reason, params }

end Rejection

/-- What a check says about an operation, and what all of them together say. -/
inductive Verdict where
  | accepted
  | rejected (rejection : Rejection)
deriving DecidableEq

namespace Verdict

/-- A rejection without substitutions. -/
def reject (reason : Reason) : Verdict := .rejected ⟨reason, []⟩

/-- The verdict with one more substitution at the end; an acceptance has none to add to. -/
def filling (placeholder value : String) : Verdict → Verdict
  | .accepted => .accepted
  | .rejected r => .rejected { r with params := r.params ++ [⟨placeholder, value⟩] }

/-- Rejects for a reason if a condition holds. -/
def rejectIf (condition : Bool) (reason : Reason) : Verdict :=
  if condition then reject reason else .accepted

/-- Whether the verdict is an acceptance. -/
def isAccepted : Verdict → Bool
  | .accepted => true
  | .rejected _ => false

/-- The rejection, if the verdict is one. -/
def rejection? : Verdict → Option Rejection
  | .accepted => none
  | .rejected r => some r

/-- The reason for a rejection. -/
def reason? (v : Verdict) : Option Reason := v.rejection?.map Rejection.reason

/-- The substitutions of a rejection; an acceptance has none. -/
def params (v : Verdict) : List Substitution := (v.rejection?.map Rejection.params).getD []

/-- The variants of verdicts. -/
def variants : List (Codec.Variant Verdict) := [
  .unit "accepted" .accepted isAccepted,
  .record "rejected" false Rejection.fields (fun (reason, params, _) => .rejected ⟨reason, params⟩)
    rejection?]

/-- The codec of verdicts. -/
def codec : Codec Verdict := .tagged "outcome" variants

end Verdict

end VmAdmission
