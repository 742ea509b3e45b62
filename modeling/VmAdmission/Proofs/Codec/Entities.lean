import VmAdmission.Inventory
import VmAdmission.Operation
import VmAdmission.Verdict
import VmAdmission.Proofs.Json.Documents

/-!
# Documents of machines, disks and operations

Each codec of the project's documents loses nothing, by its fields' and its variants' codecs: the
rules for records and tagged unions leave to check that the keys of a record are distinct, that no
variant has a field under the tag's key, that each value is of some variant, and that a member is
left out only where its absence stands for it. So all of them come back from their JSON texts:
`documents_survive_json`.
-/

namespace VmAdmission

open Codec

variable {depth : Nat}

/-! ## Names -/

theorem VmStatus.codec_roundTrips : VmStatus.codec.RoundTrips depth :=
  enumeration_roundTrips (fun s => by cases s <;> decide) (by decide)

theorem Origin.codec_roundTrips : Origin.codec.RoundTrips depth :=
  enumeration_roundTrips (fun o => by cases o <;> decide) (by decide)

theorem MigrationSupport.codec_roundTrips : MigrationSupport.codec.RoundTrips depth :=
  enumeration_roundTrips (fun m => by cases m <;> decide) (by decide)

theorem Architecture.codec_roundTrips : Architecture.codec.RoundTrips depth :=
  enumeration_roundTrips (fun a => by cases a <;> decide) (by decide)

theorem DiskInterface.codec_roundTrips : DiskInterface.codec.RoundTrips depth :=
  enumeration_roundTrips DiskInterface.mem_all (by decide)

theorem ControllerKind.codec_roundTrips : ControllerKind.codec.RoundTrips depth :=
  enumeration_roundTrips (fun k => by cases k <;> decide) (by decide)

theorem ScsiGenericIo.codec_roundTrips : ScsiGenericIo.codec.RoundTrips depth :=
  enumeration_roundTrips (fun s => by cases s <;> decide) (by decide)

theorem Reason.codec_roundTrips : Reason.codec.RoundTrips depth :=
  enumeration_roundTrips Reason.mem_all (by decide)

/-! ## Rows -/

theorem CpuTopology.codec_roundTrips : CpuTopology.codec.RoundTrips 1 := by
  refine record_roundTrips (by decide) ?_ fun _ => rfl
  exact ⟨Field.required_roundTrips uint32_roundTrips, Field.required_roundTrips uint32_roundTrips,
    Field.required_roundTrips uint32_roundTrips, trivial⟩

theorem Cluster.codec_roundTrips : Cluster.codec.RoundTrips 1 := by
  refine record_roundTrips (by decide) ?_ fun _ => rfl
  exact ⟨Field.required_roundTrips uuid_roundTrips, Field.required_roundTrips version_roundTrips,
    Field.defaulting_roundTrips Architecture.codec_roundTrips,
    Field.optional_roundTrips text_roundTrips nofun, trivial⟩

theorem Host.codec_roundTrips : Host.codec.RoundTrips 1 := by
  refine record_roundTrips (by decide) ?_ fun _ => rfl
  exact ⟨Field.required_roundTrips uuid_roundTrips, Field.required_roundTrips text_roundTrips,
    Field.required_roundTrips uuid_roundTrips, trivial⟩

theorem Vm.codec_roundTrips : Vm.codec.RoundTrips 2 := by
  refine record_roundTrips (by decide) ?_ fun _ => rfl
  exact ⟨Field.required_roundTrips uuid_roundTrips,
    Field.required_roundTrips text_roundTrips,
    Field.required_roundTrips VmStatus.codec_roundTrips,
    Field.required_roundTrips uuid_roundTrips,
    Field.required_roundTrips uuid_roundTrips,
    Field.required_roundTrips uint32_roundTrips,
    Field.defaulting_roundTrips MigrationSupport.codec_roundTrips,
    Field.defaulting_roundTrips Origin.codec_roundTrips,
    Field.required_roundTrips version_roundTrips,
    Field.optional_roundTrips version_roundTrips nofun,
    Field.required_roundTrips uint64_roundTrips,
    Field.defaulting_roundTrips uint32_roundTrips,
    Field.defaulting_roundTrips CpuTopology.codec_roundTrips,
    Field.optional_roundTrips text_roundTrips nofun,
    Field.defaulting_roundTrips (list_roundTrips uuid_roundTrips), trivial⟩

/-- The tag and the fields of each variant are told apart by their keys. -/
theorem Backing.codec_roundTrips : Backing.codec.RoundTrips 1 := by
  have hsize : sizeFields.RoundTrips 0 := ⟨Field.required_roundTrips uint64_roundTrips, trivial⟩
  have hlun : lunFields.RoundTrips 0 :=
    ⟨Field.required_roundTrips text_roundTrips, Field.defaulting_roundTrips bool_roundTrips,
      trivial⟩
  refine tagged_roundTrips (by decide) ?_ fun b => by cases b <;> rfl
  simp only [variants, List.forall_mem_cons, List.not_mem_nil, false_implies, implies_true,
    and_true]
  exact ⟨Variant.record_roundTrips (by decide) hsize
      fun b _ h => by cases b <;> cases h; rfl,
    Variant.record_roundTrips (by decide) hlun
      fun b _ h => by cases b <;> cases h; rfl,
    Variant.record_roundTrips (by decide) hsize
      fun b _ h => by cases b <;> cases h; rfl⟩

theorem Disk.codec_roundTrips : Disk.codec.RoundTrips 2 := by
  refine record_roundTrips (by decide) ?_ fun _ => rfl
  exact ⟨Field.required_roundTrips uuid_roundTrips,
    Field.required_roundTrips text_roundTrips,
    Field.required_roundTrips DiskInterface.codec_roundTrips,
    Field.defaulting_roundTrips bool_roundTrips,
    Field.optional_roundTrips ScsiGenericIo.codec_roundTrips nofun,
    Field.defaulting_roundTrips bool_roundTrips,
    Field.defaulting_roundTrips bool_roundTrips,
    Field.required_roundTrips Backing.codec_roundTrips, trivial⟩

theorem Attachment.codec_roundTrips : Attachment.codec.RoundTrips 1 := by
  refine record_roundTrips (by decide) ?_ fun _ => rfl
  exact ⟨Field.required_roundTrips uuid_roundTrips, Field.required_roundTrips uuid_roundTrips,
    Field.required_roundTrips bool_roundTrips, Field.optional_roundTrips uuid_roundTrips nofun,
    Field.defaulting_roundTrips bool_roundTrips, trivial⟩

theorem Controller.codec_roundTrips : Controller.codec.RoundTrips 1 := by
  refine record_roundTrips (by decide) ?_ fun _ => rfl
  exact ⟨Field.required_roundTrips uuid_roundTrips,
    Field.required_roundTrips ControllerKind.codec_roundTrips, trivial⟩

theorem Inventory.codec_roundTrips : Inventory.codec.RoundTrips 4 := by
  have htable {α : Type} {depth : Nat} {c : Codec α} {key : String} {get : Inventory → List α}
      (h : c.RoundTrips depth) (hle : depth ≤ 2) :
      (Field.defaulting key c.list get []).RoundTrips 3 :=
    Field.defaulting_roundTrips (list_roundTrips (h.mono hle))
  refine record_roundTrips (by decide) ?_ fun _ => rfl
  exact ⟨htable Vm.codec_roundTrips (by decide), htable Cluster.codec_roundTrips (by decide),
    htable Host.codec_roundTrips (by decide), htable Disk.codec_roundTrips (by decide),
    htable Attachment.codec_roundTrips (by decide),
    htable Controller.codec_roundTrips (by decide), trivial⟩

/-! ## Operations and verdicts -/

theorem VmUpdate.fields_roundTrips : VmUpdate.fields.RoundTrips 2 :=
  ⟨Field.required_roundTrips Vm.codec_roundTrips,
    Field.optional_roundTrips bool_roundTrips nofun, trivial⟩

theorem VmUpdate.codec_roundTrips : VmUpdate.codec.RoundTrips 3 :=
  record_roundTrips (by decide) VmUpdate.fields_roundTrips fun _ => rfl

theorem Operation.codec_roundTrips : Operation.codec.RoundTrips 3 := by
  have hdisk {σ : Type} {get : σ → Disk} :
      (Field.required "disk" Disk.codec get).RoundTrips 2 :=
    Field.required_roundTrips Disk.codec_roundTrips
  have hid {σ : Type} {key : String} {get : σ → Uuid} :
      (Field.required key .uuid get).RoundTrips 2 :=
    Field.required_roundTrips uuid_roundTrips
  have hid? {σ : Type} {key : String} {get : σ → Option Uuid} :
      (Field.optional key .uuid get).RoundTrips 2 :=
    Field.optional_roundTrips uuid_roundTrips nofun
  refine tagged_roundTrips (by decide) ?_ fun op => by cases op <;> rfl
  simp only [variants, List.forall_mem_cons, List.not_mem_nil, false_implies, implies_true,
    and_true]
  exact ⟨Variant.record_roundTrips (by decide) VmUpdate.fields_roundTrips
      fun op _ h => by cases op <;> cases h; rfl,
    Variant.record_roundTrips (by decide) ⟨hdisk, hid, hid?, trivial⟩
      fun op _ h => by cases op <;> cases h; rfl,
    Variant.record_roundTrips (by decide) ⟨hdisk, hid?, trivial⟩
      fun op _ h => by cases op <;> cases h; rfl,
    Variant.record_roundTrips (by decide) ⟨hid, hid, trivial⟩
      fun op _ h => by cases op <;> cases h; rfl,
    Variant.record_roundTrips (by decide) ⟨hid, trivial⟩
      fun op _ h => by cases op <;> cases h; rfl,
    Variant.record_roundTrips (by decide) ⟨hid, trivial⟩
      fun op _ h => by cases op <;> cases h; rfl⟩

theorem Substitution.codec_roundTrips : Substitution.codec.RoundTrips 1 := by
  refine record_roundTrips (by decide) ?_ fun _ => rfl
  exact ⟨Field.required_roundTrips text_roundTrips, Field.required_roundTrips text_roundTrips,
    trivial⟩

/-- Only an empty list of substitutions is left out, and none are read as an empty list. -/
theorem Rejection.fields_roundTrips : Rejection.fields.RoundTrips 2 := by
  refine ⟨Field.required_roundTrips Reason.codec_roundTrips, ⟨?_, fun params homitted => ?_⟩,
    trivial⟩
  · exact list_roundTrips Substitution.codec_roundTrips
  · rw [List.isEmpty_iff.1 homitted]
    rfl

theorem Rejection.codec_roundTrips : Rejection.codec.RoundTrips 3 :=
  record_roundTrips (by decide) Rejection.fields_roundTrips fun _ => rfl

theorem Verdict.codec_roundTrips : Verdict.codec.RoundTrips 3 := by
  refine tagged_roundTrips (by decide) ?_ fun v => by cases v <;> rfl
  simp only [variants, List.forall_mem_cons, List.not_mem_nil, false_implies, implies_true,
    and_true]
  exact ⟨Variant.unit_roundTrips fun v h => by cases v <;> trivial,
    Variant.record_roundTrips (by decide) Rejection.fields_roundTrips
      fun v _ h => by cases v <;> cases h; rfl⟩

/-- Whatever value is written as JSON, compact or laid out in lines, is read back as it was. -/
theorem documents_survive_json :
    Vm.codec.SurvivesJson ∧ CpuTopology.codec.SurvivesJson ∧ Cluster.codec.SurvivesJson ∧
    Host.codec.SurvivesJson ∧ Disk.codec.SurvivesJson ∧ Backing.codec.SurvivesJson ∧
    Attachment.codec.SurvivesJson ∧ Controller.codec.SurvivesJson ∧
    Inventory.codec.SurvivesJson ∧ VmUpdate.codec.SurvivesJson ∧ Operation.codec.SurvivesJson ∧
    Substitution.codec.SurvivesJson ∧ Rejection.codec.SurvivesJson ∧
    Verdict.codec.SurvivesJson ∧ Codec.version.SurvivesJson := by
  have hversion : Codec.version.RoundTrips 0 := version_roundTrips
  exact ⟨Vm.codec_roundTrips.survivesJson (by decide),
    CpuTopology.codec_roundTrips.survivesJson (by decide),
    Cluster.codec_roundTrips.survivesJson (by decide),
    Host.codec_roundTrips.survivesJson (by decide),
    Disk.codec_roundTrips.survivesJson (by decide),
    Backing.codec_roundTrips.survivesJson (by decide),
    Attachment.codec_roundTrips.survivesJson (by decide),
    Controller.codec_roundTrips.survivesJson (by decide),
    Inventory.codec_roundTrips.survivesJson (by decide),
    VmUpdate.codec_roundTrips.survivesJson (by decide),
    Operation.codec_roundTrips.survivesJson (by decide),
    Substitution.codec_roundTrips.survivesJson (by decide),
    Rejection.codec_roundTrips.survivesJson (by decide),
    Verdict.codec_roundTrips.survivesJson (by decide),
    hversion.survivesJson (by decide)⟩

end VmAdmission
