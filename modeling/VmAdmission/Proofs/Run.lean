import VmAdmission.Decision
import VmAdmission.Proofs.Commit
import Mathlib.Data.List.Induction

/-!
# Runs

Proposals are judged one after another, each by the inventory that those before it left, and only
those accepted are carried out. `Inventory.run_induction`: what every accepted operation of a run
preserves holds after the run. `Inventory.always_iff_throughout`: where it is known which operations
break a property, the property holds all along exactly if none of these is accepted.
-/

namespace VmAdmission

/-- An operation that is proposed, with what it leaves open to whoever carries it out. -/
structure Proposal where
  operation : Operation
  choice : CommitChoice
deriving DecidableEq

namespace Inventory

/-- The inventory after a proposal, which is carried out if it is accepted. -/
def advance (c : Capabilities) (inv : Inventory) (p : Proposal) : Inventory :=
  if p.operation.judge inv c = .ok .accepted then inv.commit p.choice p.operation else inv

/-- The inventory after a list of proposals. -/
def run (c : Capabilities) (inv : Inventory) (ps : List Proposal) : Inventory :=
  ps.foldl (advance c) inv

/-- The accepted operations of a list of proposals, in order. -/
def accepted (c : Capabilities) : Inventory → List Proposal → List Operation
  | _, [] => []
  | inv, p :: ps =>
    if p.operation.judge inv c = .ok .accepted then
      p.operation :: accepted c (inv.commit p.choice p.operation) ps
    else accepted c inv ps

variable {c : Capabilities} {inv : Inventory} {p : Proposal} {ps : List Proposal}

theorem run_concat {before : List Proposal} :
    inv.run c (before ++ [p]) = (inv.run c before).advance c p := by
  rw [run, List.foldl_concat]
  rfl

theorem run_cons_of_accepted (h : p.operation.judge inv c = .ok .accepted) :
    inv.run c (p :: ps) = (inv.commit p.choice p.operation).run c ps := by
  rw [run, List.foldl_cons, advance, if_pos h]
  rfl

theorem run_cons_of_not_accepted (h : ¬ p.operation.judge inv c = .ok .accepted) :
    inv.run c (p :: ps) = inv.run c ps := by
  rw [run, List.foldl_cons, advance, if_neg h]
  rfl

/-- **What steps preserve, runs preserve.** A property of inventories that every accepted operation
of a kind preserves holds after each run whose accepted operations are of that kind. -/
theorem run_induction {P : Inventory → Prop} {Q : Operation → Prop}
    (hstep : ∀ inv op choice, P inv → op.judge inv c = .ok .accepted → Q op →
      P (inv.commit choice op))
    (h : P inv) (hq : ∀ op ∈ inv.accepted c ps, Q op) : P (inv.run c ps) := by
  induction ps generalizing inv with
  | nil => exact h
  | cons p ps ih =>
    rw [accepted] at hq
    by_cases hp : p.operation.judge inv c = .ok .accepted
    · rw [if_pos hp, List.forall_mem_cons] at hq
      rw [run_cons_of_accepted hp]
      exact ih (hstep inv _ _ h hp hq.1) hq.2
    · rw [if_neg hp] at hq
      rw [run_cons_of_not_accepted hp]
      exact ih h hq

/-- An operation is accepted in a run by the inventory that the proposals before it left. -/
theorem judge_of_mem_accepted {op : Operation} (h : op ∈ inv.accepted c ps) :
    ∃ before, before <+: ps ∧ op.judge (inv.run c before) c = .ok .accepted := by
  induction ps generalizing inv with
  | nil => exact absurd h List.not_mem_nil
  | cons p ps ih =>
    rw [accepted] at h
    by_cases hp : p.operation.judge inv c = .ok .accepted
    · rw [if_pos hp, List.mem_cons] at h
      rcases h with rfl | h
      · exact ⟨[], List.nil_prefix, hp⟩
      · obtain ⟨before, hpre, hop⟩ := ih h
        refine ⟨p :: before, List.cons_prefix_cons.2 ⟨rfl, hpre⟩, ?_⟩
        rw [run_cons_of_accepted hp]
        exact hop
    · rw [if_neg hp] at h
      obtain ⟨before, hpre, hop⟩ := ih h
      refine ⟨p :: before, List.cons_prefix_cons.2 ⟨rfl, hpre⟩, ?_⟩
      rw [run_cons_of_not_accepted hp]
      exact hop

/-! ## All along a run -/

/-- The inventory has a property at the start and after each of the proposals. -/
def Always (c : Capabilities) (P : Inventory → Prop) (inv : Inventory) (ps : List Proposal) : Prop :=
  ∀ before, before <+: ps → P (inv.run c before)

/-- Each accepted operation has a property, in view of the inventory that it is judged by. -/
def Throughout (c : Capabilities) (Q : Inventory → Operation → Prop) (inv : Inventory)
    (ps : List Proposal) : Prop :=
  ∀ before p, before ++ [p] <+: ps → p.operation.judge (inv.run c before) c = .ok .accepted →
    Q (inv.run c before) p.operation

variable {Q : Inventory → Operation → Prop}

@[simp] theorem throughout_nil : inv.Throughout c Q [] := by
  intro before p hpre
  simp at hpre

@[simp] theorem throughout_cons :
    inv.Throughout c Q (p :: ps) ↔
      (p.operation.judge inv c = .ok .accepted → Q inv p.operation) ∧
        (inv.advance c p).Throughout c Q ps := by
  constructor
  · intro h
    exact ⟨h [] p (by simp), fun before q hpre => h (p :: before) q (by simpa using hpre)⟩
  · rintro ⟨hfirst, hrest⟩ before q hpre
    cases before with
    | nil =>
      obtain rfl : q = p := by simpa using hpre
      exact hfirst
    | cons first before =>
      obtain ⟨rfl, hlater⟩ := List.cons_prefix_cons.1 hpre
      exact hrest before q hlater

/-- **What breaks a property.** If the accepted operations that keep a property are known, then the
property holds all along a run exactly if each accepted operation is one of them. -/
theorem always_iff_throughout {P : Inventory → Prop}
    (hstep : ∀ before p, before ++ [p] <+: ps →
      p.operation.judge (inv.run c before) c = .ok .accepted → P (inv.run c before) →
      (P ((inv.run c before).commit p.choice p.operation) ↔ Q (inv.run c before) p.operation))
    (h : P inv) : inv.Always c P ps ↔ inv.Throughout c Q ps := by
  constructor
  · intro halways before p hpre hacc
    have hbefore : P (inv.run c before) := halways before ((List.prefix_append _ _).trans hpre)
    have hafter : P (inv.run c (before ++ [p])) := halways _ hpre
    rw [run_concat, advance, if_pos hacc] at hafter
    exact (hstep before p hpre hacc hbefore).1 hafter
  · intro hthroughout before
    induction before using List.reverseRecOn with
    | nil => exact fun _ => h
    | append_singleton before p ih =>
      intro hpre
      have hbefore : P (inv.run c before) := ih ((List.prefix_append _ _).trans hpre)
      rw [run_concat, advance]
      split_ifs with hacc
      · exact (hstep before p hpre hacc hbefore).2 (hthroughout before p hpre hacc)
      · exact hbefore

end Inventory

end VmAdmission
