import VmAdmission.Log

/-!
# Checklists

A checklist is run check by check until one rejects or meets a fault; the checks behind it are not
run. A check that does not apply is passed over. `Checklist.run` threads a state through the checks,
such as what was asked so far, and logs what happens.
-/

namespace VmAdmission

/-- A check over states of type `σ`. -/
structure Check (σ : Type) where
  name : String
  applies : Bool
  body : σ → Except Fault Verdict × σ

namespace Checklist

variable {σ : Type}

/-- How far a checklist has come: the verdict or fault that stopped it, if one did, the state, and
the events so far. -/
structure Progress (σ : Type) where
  stopped : Option (Except Fault Verdict)
  state : σ
  events : List Event

namespace Progress

/-- A checklist about to start. -/
def start (s : σ) : Progress σ := ⟨none, s, []⟩

/-- Runs a check that applies. -/
def perform (p : Progress σ) (c : Check σ) : Progress σ :=
  match c.body p.state with
  | (.ok .accepted, s) => ⟨none, s, p.events ++ [.running c.name]⟩
  | (.ok (.rejected r), s) =>
    ⟨some (.ok (.rejected r)), s, p.events ++ [.running c.name, .objected c.name r.reason]⟩
  | (.error fault, s) =>
    ⟨some (.error fault), s, p.events ++ [.running c.name, .incomplete c.name fault]⟩

/-- Runs the next check, unless the checklist has stopped or the check does not apply. -/
def step (p : Progress σ) (c : Check σ) : Progress σ :=
  if p.stopped.isNone && c.applies then p.perform c else p

/-- The result so far: what stopped the checklist, or an acceptance. -/
def result (p : Progress σ) : Except Fault Verdict := p.stopped.getD (.ok .accepted)

end Progress

/-- Runs the checks in order. -/
def run (checks : List (Check σ)) (s : σ) : Progress σ := checks.foldl Progress.step (.start s)

end Checklist

end VmAdmission
