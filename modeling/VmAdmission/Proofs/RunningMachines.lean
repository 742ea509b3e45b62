import VmAdmission.Proofs.Rule.Disk

/-!
# Machines that are running

A disk is not changed under a guest that runs on it. The rule about this looks at every attachment
in question, and all that matters is whether one of them holds the disk up
(`DiskRule.HoldsUp`): neither their order, nor how often one is listed, nor what else is listed
beside them. So a list may be judged in parts. If attachments are not given, those that the
inventory knows of the disk are judged as if they were (`running_machines_decide`).
-/

namespace VmAdmission

namespace DiskRule

open Consult

variable {answers : Answers} {disk : Disk} {onlyThroughSnapshots : Bool}
  {attachments : List (Vm × Attachment)} {joined : Vm × Attachment}

/-- An attachment through a snapshot is in question in any case. -/
theorem HoldsUp.of_only (h : HoldsUp true joined) : HoldsUp onlyThroughSnapshots joined := by
  obtain ⟨hquestion, hplugged, hdown⟩ := h
  have hsnapshot : joined.2.snapshotId.isSome = true := hquestion.resolve_left (by decide)
  exact ⟨.inr hsnapshot, hplugged, hdown⟩

/-- Attachments that are given are judged without a question. -/
theorem eval_pluggedOnlyToDownVms_given :
    (pluggedOnlyToDownVms disk onlyThroughSnapshots (some attachments)).eval answers =
      .ok (pluggedOnlyToDown onlyThroughSnapshots attachments) := rfl

theorem accepts_pluggedOnlyToDownVms_given_iff :
    (pluggedOnlyToDownVms disk onlyThroughSnapshots (some attachments)).Accepts answers ↔
      ∀ joined ∈ attachments, ¬ HoldsUp onlyThroughSnapshots joined := by
  rw [← pluggedOnlyToDown_eq_accepted_iff_forall_not]
  exact accepts_done

/-- Attachments that are not given are those that the inventory knows of the disk. -/
theorem eval_pluggedOnlyToDownVms_none :
    (pluggedOnlyToDownVms disk onlyThroughSnapshots none).eval answers =
      answers (.inventory (.attachmentsOf disk.id)) >>= fun attachments =>
        (pluggedOnlyToDownVms disk onlyThroughSnapshots (some attachments)).eval answers := by
  unfold pluggedOnlyToDownVms
  rw [eval_bind, attachmentsOf, eval_query]

/-- **Machines that are running.** Of attachments that are given, the rule accepts exactly if none
holds the disk up; otherwise it names the machine of the first that does. Hence it accepts
attachments one behind another exactly if it accepts both, it accepts the same attachments in any
order and number, and if it accepts them all, it accepts them when only those through snapshots are
in question. Attachments that are not given are those that the inventory, whatever it may be,
answers for the disk; if it meets a fault, so does the rule. -/
theorem running_machines_decide (answers : Answers) (disk : Disk) (onlyThroughSnapshots : Bool) :
    (∀ attachments,
      ((pluggedOnlyToDownVms disk onlyThroughSnapshots (some attachments)).Accepts answers ↔
        ¬ ∃ joined ∈ attachments, HoldsUp onlyThroughSnapshots joined) ∧
      (¬ (pluggedOnlyToDownVms disk onlyThroughSnapshots (some attachments)).Accepts answers →
        ∃ joined, IsFirst (HoldsUp onlyThroughSnapshots) attachments joined ∧
          (pluggedOnlyToDownVms disk onlyThroughSnapshots (some attachments)).eval answers =
            .ok (.rejected ⟨.vmIsNotDown, [⟨"vmName", joined.1.name⟩]⟩))) ∧
    (∀ attachments others,
      (pluggedOnlyToDownVms disk onlyThroughSnapshots (some (attachments ++ others))).Accepts
          answers ↔
        (pluggedOnlyToDownVms disk onlyThroughSnapshots (some attachments)).Accepts answers ∧
        (pluggedOnlyToDownVms disk onlyThroughSnapshots (some others)).Accepts answers) ∧
    (∀ attachments others, (∀ joined, joined ∈ attachments ↔ joined ∈ others) →
      ((pluggedOnlyToDownVms disk onlyThroughSnapshots (some attachments)).Accepts answers ↔
        (pluggedOnlyToDownVms disk onlyThroughSnapshots (some others)).Accepts answers)) ∧
    (∀ attachments,
      (pluggedOnlyToDownVms disk false (some attachments)).Accepts answers →
        (pluggedOnlyToDownVms disk true (some attachments)).Accepts answers) ∧
    (pluggedOnlyToDownVms disk onlyThroughSnapshots none).eval answers =
      answers (.inventory (.attachmentsOf disk.id)) >>= fun attachments =>
        (pluggedOnlyToDownVms disk onlyThroughSnapshots (some attachments)).eval answers := by
  refine ⟨fun attachments => ⟨?_, fun hnot => ?_⟩, fun attachments others => ?_,
    fun attachments others hsame => ?_, fun attachments hall => ?_, eval_pluggedOnlyToDownVms_none⟩
  · rw [accepts_pluggedOnlyToDownVms_given_iff]
    simp only [not_exists, not_and]
  · rcases pluggedOnlyToDown_cases onlyThroughSnapshots attachments with
      ⟨hnone, -⟩ | ⟨joined, hfirst, hrejected⟩
    · exact absurd (accepts_pluggedOnlyToDownVms_given_iff.2 hnone) hnot
    · exact ⟨joined, hfirst, by rw [eval_pluggedOnlyToDownVms_given, hrejected]⟩
  · simp only [accepts_pluggedOnlyToDownVms_given_iff, List.forall_mem_append]
  · simp only [accepts_pluggedOnlyToDownVms_given_iff, hsame]
  · rw [accepts_pluggedOnlyToDownVms_given_iff] at hall ⊢
    intro joined hmem hholds
    exact hall joined hmem hholds.of_only

end DiskRule

end VmAdmission
