import VmAdmission.Proofs.Rule.VmUpdate

/-!
# The answer about a processor layout

A layout is checked against four limits, one after another, and the first of them that it does not
keep within gives the answer: that limit is exceeded, or has no value at the version. What a layout
asks of a limit is stated as an exact number (`VersionedSetting.demand`), while the program computes
with 64-bit numbers that are cut off at the greatest. `VmChange.eval_cpuTopology_exact` says that
the cut never decides anything.
-/

namespace VmAdmission

/-! ## Demands -/

namespace VersionedSetting

/-- What a layout asks of a limit. -/
def demand (t : CpuTopology) : VersionedSetting → Nat
  | .maxNumOfVmCpus => t.sockets.toNat * t.coresPerSocket.toNat * t.threadsPerCore.toNat
  | .maxNumOfVmSockets => t.sockets.toNat
  | .maxNumOfCpuPerSocket => t.coresPerSocket.toNat
  | .maxNumOfThreadsPerCpu => t.threadsPerCore.toNat

/-- How the excess of a limit is reported. -/
def excess (greatest : UInt32) : VersionedSetting → Rejection
  | .maxNumOfVmCpus => ⟨.tooManyCpus, [⟨"maxNumOfCpus", greatest.toNat.repr⟩]⟩
  | .maxNumOfVmSockets => ⟨.tooManySockets, [⟨"maxNumOfSockets", greatest.toNat.repr⟩]⟩
  | .maxNumOfCpuPerSocket =>
    ⟨.tooManyCpusPerSocket, [⟨"maxNumOfCpuPerSocket", greatest.toNat.repr⟩]⟩
  | .maxNumOfThreadsPerCpu =>
    ⟨.tooManyThreadsPerCpu, [⟨"maxNumOfThreadsPerCpu", greatest.toNat.repr⟩]⟩

theorem mem_all (s : VersionedSetting) : s ∈ all := by
  cases s <;> decide

end VersionedSetting

/-- A layout has at least one socket, one core in each and one thread on each. -/
structure CpuTopology.IsPopulated (t : CpuTopology) : Prop where
  sockets : 1 ≤ t.sockets.toNat
  coresPerSocket : 1 ≤ t.coresPerSocket.toNat
  threadsPerCore : 1 ≤ t.threadsPerCore.toNat

/-- A limit has a value at the version, and the layout keeps within it. -/
def Capabilities.KeepsWithin (c : Capabilities) (v : Version) (t : CpuTopology)
    (s : VersionedSetting) : Prop :=
  ∃ greatest, c.settings.limit? s v = some greatest ∧ s.demand t ≤ greatest.toNat

/-- The limit is the first that the layout does not keep within. -/
def Capabilities.FirstUnkept (c : Capabilities) (v : Version) (t : CpuTopology)
    (s : VersionedSetting) : Prop :=
  IsFirst (fun s => ¬ c.KeepsWithin v t s)
    [.maxNumOfVmCpus, .maxNumOfVmSockets, .maxNumOfCpuPerSocket, .maxNumOfThreadsPerCpu] s

/-- What the check of a layout comes to. -/
inductive Capabilities.TopologyOutcome (c : Capabilities) (v : Version) (t : CpuTopology) :
    Except Fault Verdict → Prop where
  | tooFew (h : ¬ t.IsPopulated) : c.TopologyOutcome v t (.ok (.rejected ⟨.tooFewCpus, []⟩))
  | exceeded {s : VersionedSetting} {greatest : UInt32} (h : t.IsPopulated)
    (hfirst : c.FirstUnkept v t s) (hlimit : c.settings.limit? s v = some greatest) :
    c.TopologyOutcome v t (.ok (.rejected (s.excess greatest)))
  | missing {s : VersionedSetting} (h : t.IsPopulated)
    (hfirst : c.FirstUnkept v t s) (hlimit : c.settings.limit? s v = none) :
    c.TopologyOutcome v t (.error (.missingSetting s v))
  | kept (h : t.IsPopulated) (hall : ∀ s, c.KeepsWithin v t s) :
    c.TopologyOutcome v t (.ok .accepted)

/-! ## Counts -/

namespace CpuTopology

variable {t : CpuTopology}

theorem isPopulated_iff : t.IsPopulated ↔ t.vcpus ≠ 0 := by
  rw [ne_eq, VmChange.vcpus_eq_zero_iff, VmChange.product_eq_zero_iff]
  constructor
  · rintro ⟨hs, hc, ht⟩
    omega
  · intro h
    exact ⟨by omega, by omega, by omega⟩

/-- There is no processor exactly if there is none of something. -/
theorem vcpus_eq_zero_iff_factor :
    t.vcpus = 0 ↔ t.sockets = 0 ∨ t.coresPerSocket = 0 ∨ t.threadsPerCore = 0 := by
  rw [VmChange.vcpus_eq_zero_iff, VmChange.product_eq_zero_iff]
  simp only [← UInt32.toNat_inj, UInt32.toNat_zero]

end CpuTopology

/-! ## One limit after another -/

namespace VmChange

variable {inv : Inventory} {c : Capabilities} {v : Version} {t : CpuTopology}
  {s : VersionedSetting} {settings : List VersionedSetting} {greatest : UInt32}

/-- The limit for a setting. -/
def cpuLimit : VersionedSetting → CpuLimit
  | .maxNumOfVmCpus => ⟨.maxNumOfVmCpus, CpuTopology.vcpus, .tooManyCpus, "maxNumOfCpus"⟩
  | .maxNumOfVmSockets =>
    ⟨.maxNumOfVmSockets, (·.sockets.toUInt64), .tooManySockets, "maxNumOfSockets"⟩
  | .maxNumOfCpuPerSocket =>
    ⟨.maxNumOfCpuPerSocket, (·.coresPerSocket.toUInt64), .tooManyCpusPerSocket,
      "maxNumOfCpuPerSocket"⟩
  | .maxNumOfThreadsPerCpu =>
    ⟨.maxNumOfThreadsPerCpu, (·.threadsPerCore.toUInt64), .tooManyThreadsPerCpu,
      "maxNumOfThreadsPerCpu"⟩

theorem cpuLimit_setting (s : VersionedSetting) : (cpuLimit s).setting = s := by
  cases s <;> rfl

/-- What is compared with a limit is above it exactly if the exact number is. -/
theorem lt_requested_iff :
    greatest.toUInt64 < (cpuLimit s).requested t ↔ greatest.toNat < s.demand t := by
  rw [← not_iff_not, UInt64.not_lt, Nat.not_lt]
  cases s with
  | maxNumOfVmCpus => exact vcpus_le_iff
  | maxNumOfVmSockets => simp [cpuLimit, VersionedSetting.demand, UInt64.le_iff_toNat_le]
  | maxNumOfCpuPerSocket => simp [cpuLimit, VersionedSetting.demand, UInt64.le_iff_toNat_le]
  | maxNumOfThreadsPerCpu => simp [cpuLimit, VersionedSetting.demand, UInt64.le_iff_toNat_le]

theorem excess_eq : (Verdict.reject (cpuLimit s).reason).filling (cpuLimit s).placeholder
    greatest.toNat.repr = .rejected (s.excess greatest) := by
  cases s <;> rfl

theorem eval_limit :
    (Consult.limit s v).eval (.ofTables inv c) =
      (c.settings.limit? s v).elim (.error (.missingSetting s v)) .ok := by
  rw [Consult.limit, Consult.eval_query]
  simp only [Answers.ofTables, Capabilities.answerSettings]
  cases c.settings.limit? s v <;> rfl

theorem eval_withinLimits_cons :
    (withinLimits t v ((s :: settings).map cpuLimit)).eval (.ofTables inv c) =
      (c.settings.limit? s v).elim (.error (.missingSetting s v)) fun greatest =>
        if greatest.toNat < s.demand t then .ok (.rejected (s.excess greatest))
        else (withinLimits t v (settings.map cpuLimit)).eval (.ofTables inv c) := by
  rw [List.map_cons, withinLimits, Consult.eval_bind, cpuLimit_setting, eval_limit]
  cases c.settings.limit? s v with
  | none => rfl
  | some greatest =>
    simp only [Option.elim_some, ok_bind, lt_requested_iff, excess_eq]
    split <;> rfl

/-- The first limit without a value or exceeded stops the check, and says why. -/
theorem eval_withinLimits_of_isFirst (h : IsFirst (fun s => ¬ c.KeepsWithin v t s) settings s) :
    (withinLimits t v (settings.map cpuLimit)).eval (.ofTables inv c) =
      (c.settings.limit? s v).elim (.error (.missingSetting s v)) fun greatest =>
        .ok (.rejected (s.excess greatest)) := by
  induction settings with
  | nil => exact absurd h not_isFirst_nil
  | cons s' settings ih =>
    rw [eval_withinLimits_cons]
    rcases isFirst_cons_iff.1 h with ⟨hstop, rfl⟩ | ⟨hkeeps, h⟩
    · cases hlimit : c.settings.limit? s v with
      | none => rfl
      | some greatest =>
        have hlt : greatest.toNat < s.demand t := by
          rw [← Nat.not_le]
          intro hle
          exact hstop ⟨greatest, hlimit, hle⟩
        rw [Option.elim_some, if_pos hlt, Option.elim_some]
    · obtain ⟨greatest, hlimit, hle⟩ := not_not.1 hkeeps
      rw [hlimit, Option.elim_some, if_neg (Nat.not_lt.2 hle), ih h]

theorem eval_withinLimits_of_forall (h : ∀ s ∈ settings, c.KeepsWithin v t s) :
    (withinLimits t v (settings.map cpuLimit)).eval (.ofTables inv c) = .ok .accepted := by
  induction settings with
  | nil => rfl
  | cons s settings ih =>
    obtain ⟨⟨greatest, hlimit, hle⟩, hrest⟩ := List.forall_mem_cons.1 h
    rw [eval_withinLimits_cons, hlimit, Option.elim_some, if_neg (Nat.not_lt.2 hle), ih hrest]

/-! ## The whole check -/

variable {ch : VmChange} {result : Except Fault Verdict}

theorem cpuLimits_eq_map : cpuLimits = VersionedSetting.all.map cpuLimit := rfl

theorem eval_cpuLimits_of_firstUnkept (h : c.FirstUnkept v t s) :
    (withinLimits t v cpuLimits).eval (.ofTables inv c) =
      (c.settings.limit? s v).elim (.error (.missingSetting s v)) fun greatest =>
        .ok (.rejected (s.excess greatest)) := by
  rw [cpuLimits_eq_map]
  exact eval_withinLimits_of_isFirst h

theorem eval_cpuTopology_of_outcome
    (h : c.TopologyOutcome ch.version ch.proposed.cpuTopology result) :
    ch.cpuTopology.eval (.ofTables inv c) = result := by
  unfold cpuTopology
  cases h with
  | tooFew h =>
    rw [CpuTopology.isPopulated_iff, not_not] at h
    rw [if_pos h]
    rfl
  | exceeded h hfirst hlimit =>
    rw [if_neg (CpuTopology.isPopulated_iff.1 h), eval_cpuLimits_of_firstUnkept hfirst, hlimit,
      Option.elim]
  | missing h hfirst hlimit =>
    rw [if_neg (CpuTopology.isPopulated_iff.1 h), eval_cpuLimits_of_firstUnkept hfirst, hlimit,
      Option.elim]
  | kept h hall =>
    rw [if_neg (CpuTopology.isPopulated_iff.1 h), cpuLimits_eq_map]
    exact eval_withinLimits_of_forall fun s _ => hall s

/-- Every layout has an outcome. -/
theorem exists_topologyOutcome (c : Capabilities) (v : Version) (t : CpuTopology) :
    ∃ result, c.TopologyOutcome v t result := by
  by_cases h : t.IsPopulated
  · by_cases hall : ∀ s, c.KeepsWithin v t s
    · exact ⟨_, .kept h hall⟩
    · obtain ⟨s, hs⟩ := not_forall.1 hall
      obtain ⟨first, hfirst⟩ : ∃ first, c.FirstUnkept v t first :=
        exists_isFirst_iff.2 ⟨s, s.mem_all, hs⟩
      cases hlimit : c.settings.limit? first v with
      | none => exact ⟨_, .missing h hfirst hlimit⟩
      | some greatest => exact ⟨_, .exceeded h hfirst hlimit⟩
  · exact ⟨_, .tooFew h⟩

theorem eval_cpuTopology_eq_iff_outcome :
    ch.cpuTopology.eval (.ofTables inv c) = result ↔
      c.TopologyOutcome ch.version ch.proposed.cpuTopology result := by
  refine ⟨?_, eval_cpuTopology_of_outcome⟩
  rintro rfl
  obtain ⟨result, h⟩ := exists_topologyOutcome c ch.version ch.proposed.cpuTopology
  rwa [eval_cpuTopology_of_outcome h]

/-- **The check of a processor layout is exact.** The number of virtual processors is the product of
the three numbers, cut off at the greatest 64-bit number, and zero only if one of the three is. A
layout is accepted exactly if there is at least one of everything and the exact product and each of
the three numbers keep within their limits. Otherwise there is too little of something, or the first
limit that the layout does not keep within is exceeded or has no value, and the answer says so. -/
theorem eval_cpuTopology_exact (ch : VmChange) (inv : Inventory) (c : Capabilities) :
    (∀ t : CpuTopology,
      t.vcpus.toNat = min (t.sockets.toNat * t.coresPerSocket.toNat * t.threadsPerCore.toNat)
        (UInt64.size - 1) ∧
      (t.vcpus = 0 ↔ t.sockets = 0 ∨ t.coresPerSocket = 0 ∨ t.threadsPerCore = 0)) ∧
    (ch.cpuTopology.eval (.ofTables inv c) = .ok .accepted ↔
      ch.proposed.cpuTopology.IsPopulated ∧
        ∀ s, c.KeepsWithin ch.version ch.proposed.cpuTopology s) ∧
    ∀ result, ch.cpuTopology.eval (.ofTables inv c) = result ↔
      c.TopologyOutcome ch.version ch.proposed.cpuTopology result := by
  refine ⟨fun t => ⟨t.vcpus_toNat, CpuTopology.vcpus_eq_zero_iff_factor⟩, ?_, fun result =>
    eval_cpuTopology_eq_iff_outcome⟩
  rw [eval_cpuTopology_eq_iff_outcome]
  constructor
  · intro h
    cases h with
    | kept h hall => exact ⟨h, hall⟩
  · rintro ⟨h, hall⟩
    exact .kept h hall

end VmChange

end VmAdmission
