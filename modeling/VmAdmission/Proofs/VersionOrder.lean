import VmAdmission.Proofs.Rule.Disk
import VmAdmission.Proofs.VersionTexts

/-!
# The order of versions

Versions are ordered by their numbers, and so are texts of versions, however the numbers are spelled
(`Version.Spells`): 3.10 is behind 3.9, and 03.9 is 3.9. A feature is available from a version on,
so a version that provides it is followed by none that does not. The rule about VirtIO-SCSI asks for
the feature at the version of a machine, and objects to the version for want of the feature alone
(`DiskRule.rejects_version_iff`). So a later version is never objected to where an earlier one was
not (`versions_ordered_by_numbers`).
-/

namespace VmAdmission

/-! ## Numbers -/

namespace Version

variable {v w : Version} {text : String} {major minor : Nat}

theorem compare_toNat (m n : UInt16) : compare m n = compare m.toNat n.toNat := by
  change compareOfLessAndEq m n = compareOfLessAndEq m.toNat n.toNat
  simp only [compareOfLessAndEq, UInt16.lt_iff_toNat_lt, ← UInt16.toNat_inj]

theorem compare_eq_then : compare v w =
    (compare v.major.toNat w.major.toNat).then (compare v.minor.toNat w.minor.toNat) := by
  rw [← compare_toNat, ← compare_toNat]
  rfl

instance : Std.TransOrd Version :=
  inferInstanceAs (Std.TransCmp (compareLex (compareOn Version.major) (compareOn Version.minor)))

theorem isLE_compare_iff : (compare v w).isLE = true ↔ v ≤ w := by
  rw [compare_eq_then, le_iff_toNat, Ordering.isLE_then_iff_or, Nat.isLE_compare,
    Nat.compare_eq_lt, Nat.compare_eq_eq]

instance : Std.LawfulEqOrd Version where
  eq_of_compare {v w} h := by
    have hle : v ≤ w := isLE_compare_iff.1 (by rw [h]; rfl)
    have hge : w ≤ v := isLE_compare_iff.1 (by rw [Std.OrientedOrd.eq_swap, h]; rfl)
    exact le_antisymm hle hge

/-! ## Texts -/

/-- The text is one of a version with these numbers, in any spelling. -/
def Spells (text : String) (major minor : Nat) : Prop :=
  ∃ first second, text.toList = first ++ '.' :: second ∧
    Numeral.Denotes 65535 first major ∧ Numeral.Denotes 65535 second minor

theorem Spells.parse (h : Spells text major minor) :
    ∃ v, parse text = .ok v ∧ v.major.toNat = major ∧ v.minor.toNat = minor := by
  obtain ⟨first, second, htext, hmajor, hminor⟩ := h
  have hM := toNat_ofNat_of_denotes hmajor
  have hm := toNat_ofNat_of_denotes hminor
  refine ⟨⟨.ofNat major, .ofNat minor⟩, parse_eq_ok_iff.2 ⟨first, second, htext, ?_, ?_⟩, hM, hm⟩
  · rwa [hM]
  · rwa [hm]

end Version

/-! ## Features -/

theorem Capabilities.isFeatureSupported_mono {c : Capabilities} {f : Feature} {v w : Version}
    (h : v ≤ w) (hv : c.isFeatureSupported f v = true) : c.isFeatureSupported f w = true := by
  obtain ⟨since, hsince, hle⟩ := Capabilities.isFeatureSupported_eq_true_iff.1 hv
  exact Capabilities.isFeatureSupported_eq_true_iff.2 ⟨since, hsince, Version.le_trans hle h⟩

/-! ## The rule about VirtIO-SCSI -/

namespace DiskRule

open Consult

variable {answers : Answers} {disk : Disk} {vm? : Option Vm}

/-- A disk on VirtIO-SCSI is rejected at once where the machine's version does not provide it. -/
theorem eval_interfaceCompatibility_of_unsupported {vm : Vm}
    (hinterface : disk.interface = .virtioScsi)
    (himage : ¬ (disk.sgio.isSome = true ∧ disk.storageType = .image))
    (hfeature : answers (.settings (.supportsFeature .virtioScsi vm.effectiveVersion)) =
      .ok false) :
    (interfaceCompatibility disk (some vm)).eval answers =
      .ok (.reject .virtioScsiNotAvailableAtClusterLevel) := by
  have hasked : (supportsFeature .virtioScsi vm.effectiveVersion).eval answers = .ok false :=
    (eval_query _ _).trans hfeature
  unfold interfaceCompatibility
  rw [if_neg (not_not.2 hinterface), if_neg himage, eval_bind, hasked]
  rfl

/-- Only where it is asked for VirtIO-SCSI, and a machine's version does not provide it, does the
rule object to the version. -/
theorem unsupported_of_rejects_version
    (h : (interfaceCompatibility disk vm?).eval answers =
      .ok (.reject .virtioScsiNotAvailableAtClusterLevel)) :
    disk.interface = .virtioScsi ∧
      ¬ (disk.sgio.isSome = true ∧ disk.storageType = .image) ∧
      ∃ vm, vm? = some vm ∧
        answers (.settings (.supportsFeature .virtioScsi vm.effectiveVersion)) = .ok false := by
  unfold interfaceCompatibility at h
  split at h
  · cases h
  rename_i hinterface
  split at h
  · cases h
  rename_i himage
  cases vm? with
  | none => cases h
  | some vm =>
    obtain ⟨supported, hsupported, h⟩ := bind_eq_ok_iff.1 ((eval_bind ..).symm.trans h)
    split at h
    · -- the version does not provide it
      rename_i hnot
      rw [supportsFeature, eval_query] at hsupported
      have hfalse : supported = false := by simpa using hnot
      subst hfalse
      exact ⟨not_not.1 hinterface, himage, vm, rfl, hsupported⟩
    · -- the controller or the guest operating system decides
      obtain ⟨present, -, h⟩ := bind_eq_ok_iff.1 ((eval_bind ..).symm.trans h)
      split at h
      · cases h
      · obtain ⟨supported, -, h⟩ := bind_eq_ok_iff.1 ((eval_bind ..).symm.trans h)
        cases supported <;> cases h

/-- The rule objects to the version exactly if the disk is on VirtIO-SCSI, SGIO is not put on an
image, and the version of the machine does not provide VirtIO-SCSI. -/
theorem rejects_version_iff :
    (interfaceCompatibility disk vm?).eval answers =
        .ok (.reject .virtioScsiNotAvailableAtClusterLevel) ↔
      disk.interface = .virtioScsi ∧
      ¬ (disk.sgio.isSome = true ∧ disk.storageType = .image) ∧
      ∃ vm, vm? = some vm ∧
        answers (.settings (.supportsFeature .virtioScsi vm.effectiveVersion)) = .ok false := by
  constructor
  · exact unsupported_of_rejects_version
  · rintro ⟨hinterface, himage, vm, rfl, hfeature⟩
    exact eval_interfaceCompatibility_of_unsupported hinterface himage hfeature

/-- A later version is not objected to where an earlier one was not. -/
theorem not_rejects_version_of_le {c : Capabilities} {vm vm' : Vm}
    (hsettings : ∀ q, answers (.settings q) = c.answerSettings q)
    (hversion : vm.effectiveVersion ≤ vm'.effectiveVersion)
    (h : (interfaceCompatibility disk (some vm)).eval answers ≠
      .ok (.reject .virtioScsiNotAvailableAtClusterLevel)) :
    (interfaceCompatibility disk (some vm')).eval answers ≠
      .ok (.reject .virtioScsiNotAvailableAtClusterLevel) := by
  intro hrejected
  obtain ⟨hinterface, himage, _, ⟨⟩, hfeature⟩ := rejects_version_iff.1 hrejected
  have hunsupported : c.isFeatureSupported .virtioScsi vm'.effectiveVersion = false := by
    rw [hsettings] at hfeature
    exact Except.ok.inj hfeature
  have hbefore : c.isFeatureSupported .virtioScsi vm.effectiveVersion = false := by
    by_contra hsupported
    rw [Bool.not_eq_false] at hsupported
    rw [Capabilities.isFeatureSupported_mono hversion hsupported] at hunsupported
    cases hunsupported
  refine h (rejects_version_iff.2 ⟨hinterface, himage, vm, rfl, ?_⟩)
  rw [hsettings]
  exact congrArg Except.ok hbefore

end DiskRule

/-- **The order of versions.** Versions are compared by their numbers, the major one first. That is
a total order, and of texts it only depends on the numbers that they spell. A version that provides
a feature is followed by none that does not. So wherever the rule about VirtIO-SCSI, asked with
these settings and any inventory, does not object to the version of a machine, it does not object to
a later one. -/
theorem versions_ordered_by_numbers :
    (∀ v w : Version,
      (v ≤ w ↔ v.major.toNat < w.major.toNat ∨
        v.major.toNat = w.major.toNat ∧ v.minor.toNat ≤ w.minor.toNat) ∧
      compare v w =
        (compare v.major.toNat w.major.toNat).then (compare v.minor.toNat w.minor.toNat) ∧
      ((compare v w).isLE = true ↔ v ≤ w) ∧ (compare v w = .eq ↔ v = w) ∧
      compare v w = (compare w v).swap) ∧
    (∀ v w : Version, v ≤ w ∨ w ≤ v) ∧
    (∀ v w : Version, v ≤ w → w ≤ v → v = w) ∧
    (∀ u v w : Version, u ≤ v → v ≤ w → u ≤ w) ∧
    (∀ text major minor text' major' minor', Version.Spells text major minor →
      Version.Spells text' major' minor' →
      ∃ v w, Version.parse text = .ok v ∧ Version.parse text' = .ok w ∧
        (v ≤ w ↔ major < major' ∨ major = major' ∧ minor ≤ minor') ∧
        (v = w ↔ major = major' ∧ minor = minor')) ∧
    (∀ (c : Capabilities) (f : Feature) (v w : Version), v ≤ w →
      c.isFeatureSupported f v = true → c.isFeatureSupported f w = true) ∧
    ∀ (answers : Answers) (c : Capabilities) (disk : Disk) (vm vm' : Vm),
      (∀ q, answers (.settings q) = c.answerSettings q) →
      vm.effectiveVersion ≤ vm'.effectiveVersion →
      (DiskRule.interfaceCompatibility disk (some vm)).eval answers ≠
        .ok (.reject .virtioScsiNotAvailableAtClusterLevel) →
      (DiskRule.interfaceCompatibility disk (some vm')).eval answers ≠
        .ok (.reject .virtioScsiNotAvailableAtClusterLevel) := by
  refine ⟨fun v w => ⟨Version.le_iff_toNat, Version.compare_eq_then, Version.isLE_compare_iff,
    Std.LawfulEqOrd.compare_eq_iff_eq, Std.OrientedOrd.eq_swap⟩, Version.le_total,
    fun _ _ => Version.le_antisymm, fun _ _ _ => Version.le_trans, ?_,
    fun _ _ _ _ => Capabilities.isFeatureSupported_mono,
    fun _ _ _ _ _ => DiskRule.not_rejects_version_of_le⟩
  intro text major minor text' major' minor' h h'
  obtain ⟨v, hv, rfl, rfl⟩ := h.parse
  obtain ⟨w, hw, rfl, rfl⟩ := h'.parse
  refine ⟨v, w, hv, hw, Version.le_iff_toNat, ?_⟩
  rw [← Std.LawfulEqOrd.compare_eq_iff_eq (a := v), Version.compare_eq_then, Ordering.then_eq_eq,
    Nat.compare_eq_eq, Nat.compare_eq_eq]

/-- Version 3.10 is behind 3.9, however that is spelled. -/
example :
    Version.parse "+03.9" = .ok ⟨3, 9⟩ ∧ Version.parse "3.10" = .ok ⟨3, 10⟩ ∧
      (⟨3, 9⟩ : Version) ≤ ⟨3, 10⟩ ∧ ¬ (⟨3, 10⟩ : Version) ≤ ⟨3, 9⟩ := by decide +kernel

end VmAdmission
