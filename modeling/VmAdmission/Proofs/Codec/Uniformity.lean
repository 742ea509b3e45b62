import VmAdmission.Inventory
import VmAdmission.Operation
import VmAdmission.Proofs.Codec.Forms

/-!
# Forms of machines, disks and operations

Each type of the project's documents is read from the members of a record in any order, at any
depth, or from the list of its fields' values, with the same rules about missing, repeated and
unknown fields (`decoding_forms_agree`). A codec's proof lists its fields; what is left to check is
that the keys of a record, the tag's included, are distinct, and that a field has the same default in
both forms.
-/

namespace VmAdmission

open Codec

variable {α σ : Type}

/-! ## Uniform fields -/

namespace Codec

/-- A record type is read in any order of members, and by its shape. -/
structure Uniform (c : Codec α) (s : Shape) : Prop where
  order : c.IgnoresOrder
  forms : ∀ d, s.Governs (fun _ => True) (c.read d)

/-- A tagged union is read in any order of members, and each of its variants by a shape; nothing is
read without a tag that names a variant, which a list has in front. -/
structure UniformUnion (c : Codec σ) (tag : String) (variants : List (Variant σ))
    (shapes : List Shape) : Prop where
  order : c.IgnoresOrder
  forms : ∀ d, List.Forall₂
    (fun v s => (s.tagged tag).Governs (Tagged.Names tag variants d v) (c.read d)) variants shapes
  untagged : ∀ d ms, (∀ v, ¬ Tagged.Names tag variants d v ms) →
    (c.read d (.record ms)).toOption = none
  unlisted : ∀ d items, (∀ x ∈ items.head?, ∀ v, Tagged.readTag variants d x ≠ .ok v) →
    (c.read d (.list items)).toOption = none

/-- The field's codec ignores order, and the field's default is the same in both forms. -/
structure Field.Uniform (field : Field σ α) : Prop where
  order : field.codec.IgnoresOrder
  default : field.beyond = field.absent

/-- Every field is uniform. -/
def Fields.Uniform : {αs : List Type} → Fields σ αs → Prop
  | _, .nil => True
  | _, .cons field rest => field.Uniform ∧ rest.Uniform

section Fields

variable {c : Codec α} {key : String}

theorem Field.required_uniform {get : σ → α} (h : c.IgnoresOrder) :
    (required key c get).Uniform :=
  ⟨h, rfl⟩

theorem Field.defaulting_uniform {get : σ → α} {default : α} (h : c.IgnoresOrder) :
    (defaulting key c get default).Uniform :=
  ⟨h, rfl⟩

theorem Field.optional_uniform {get : σ → Option α} (h : c.IgnoresOrder) :
    (optional key c get).Uniform :=
  defaulting_uniform (option_ignoresOrder h)

variable {αs : List Type} {fields : Fields σ αs} {strict : Bool}

theorem Fields.Uniform.ignoreOrder (h : fields.Uniform) : fields.IgnoreOrder := by
  induction fields with
  | nil => trivial
  | cons field rest ih => exact ⟨h.1.order, ih h.2⟩

theorem Fields.Uniform.sameDefaults (h : fields.Uniform) : fields.SameDefaults := by
  induction fields with
  | nil => trivial
  | cons field rest ih => exact ⟨h.1.default, ih h.2⟩

theorem record_uniform {build : Values αs → σ} (hnodup : fields.keys.Nodup)
    (h : fields.Uniform) : (record strict fields build).Uniform (fields.shape strict) where
  order := record_ignoresOrder h.ignoreOrder
  forms := record_governs hnodup h.sameDefaults

end Fields

/-- A variant reads in any order of members, and by a shape without the tag. -/
structure Variant.Uniform (tag : String) (v : Variant σ) (s : Shape) : Prop where
  order : ReadsInAnyOrder v.read
  forms : s.Governs (fun _ => True) v.read
  nodup : (tag :: s.keys).Nodup

theorem Variant.record_uniform {π : Type} {αs : List Type} {tag name : String} {strict : Bool}
    {fields : Fields π αs} {build : Values αs → σ} {project? : σ → Option π}
    (hnodup : (tag :: fields.keys).Nodup) (h : fields.Uniform) :
    (record name strict fields build project?).Uniform tag (fields.shape strict) where
  order := record_readsInAnyOrder h.ignoreOrder
  forms := record_governs (List.nodup_cons.1 hnodup).2 h.sameDefaults
  nodup := hnodup

theorem tagged_uniform {tag : String} {variants : List (Variant σ)} {shapes : List Shape}
    (h : List.Forall₂ (Variant.Uniform tag) variants shapes) :
    (tagged tag variants).UniformUnion tag variants shapes where
  order := by
    refine tagged_ignoresOrder fun v hv => ?_
    induction h with
    | nil => cases hv
    | cons hvs _ ih =>
      rcases List.mem_cons.1 hv with rfl | hv
      · exact hvs.order
      · exact ih hv
  forms d := h.imp fun _ _ hvs => tagged_governs hvs.forms hvs.nodup d
  untagged _ _ hms := Tagged.toOption_read_of_not_names hms
  unlisted _ _ hitems := Tagged.toOption_read_list_of_not_names hitems

end Codec

/-! ## Rows -/

theorem CpuTopology.codec_uniform : CpuTopology.codec.Uniform (CpuTopology.fields.shape true) :=
  record_uniform (by decide)
    ⟨Field.required_uniform uint32_ignoresOrder, Field.required_uniform uint32_ignoresOrder,
      Field.required_uniform uint32_ignoresOrder, trivial⟩

theorem Cluster.codec_uniform : Cluster.codec.Uniform (Cluster.fields.shape true) :=
  record_uniform (by decide)
    ⟨Field.required_uniform uuid_ignoresOrder, Field.required_uniform version_ignoresOrder,
      Field.defaulting_uniform enumeration_ignoresOrder,
      Field.optional_uniform text_ignoresOrder, trivial⟩

theorem Host.codec_uniform : Host.codec.Uniform (Host.fields.shape true) :=
  record_uniform (by decide)
    ⟨Field.required_uniform uuid_ignoresOrder, Field.required_uniform text_ignoresOrder,
      Field.required_uniform uuid_ignoresOrder, trivial⟩

theorem Vm.codec_uniform : Vm.codec.Uniform (Vm.fields.shape true) :=
  record_uniform (by decide)
    ⟨Field.required_uniform uuid_ignoresOrder,
      Field.required_uniform text_ignoresOrder,
      Field.required_uniform enumeration_ignoresOrder,
      Field.required_uniform uuid_ignoresOrder,
      Field.required_uniform uuid_ignoresOrder,
      Field.required_uniform uint32_ignoresOrder,
      Field.defaulting_uniform enumeration_ignoresOrder,
      Field.defaulting_uniform enumeration_ignoresOrder,
      Field.required_uniform version_ignoresOrder,
      Field.optional_uniform version_ignoresOrder,
      Field.required_uniform uint64_ignoresOrder,
      Field.defaulting_uniform uint32_ignoresOrder,
      Field.defaulting_uniform CpuTopology.codec_uniform.order,
      Field.optional_uniform text_ignoresOrder,
      Field.defaulting_uniform (list_ignoresOrder uuid_ignoresOrder), trivial⟩

theorem Backing.codec_uniform :
    Backing.codec.UniformUnion "type" Backing.variants
      [sizeFields.shape true, lunFields.shape true, sizeFields.shape true] := by
  have hsize : sizeFields.Uniform := ⟨Field.required_uniform uint64_ignoresOrder, trivial⟩
  have hlun : lunFields.Uniform :=
    ⟨Field.required_uniform text_ignoresOrder, Field.defaulting_uniform bool_ignoresOrder, trivial⟩
  exact tagged_uniform
    (.cons (Variant.record_uniform (by decide) hsize)
      (.cons (Variant.record_uniform (by decide) hlun)
        (.cons (Variant.record_uniform (by decide) hsize) .nil)))

theorem Disk.codec_uniform : Disk.codec.Uniform (Disk.fields.shape true) :=
  record_uniform (by decide)
    ⟨Field.required_uniform uuid_ignoresOrder,
      Field.required_uniform text_ignoresOrder,
      Field.required_uniform enumeration_ignoresOrder,
      Field.defaulting_uniform bool_ignoresOrder,
      Field.optional_uniform enumeration_ignoresOrder,
      Field.defaulting_uniform bool_ignoresOrder,
      Field.defaulting_uniform bool_ignoresOrder,
      Field.required_uniform Backing.codec_uniform.order, trivial⟩

theorem Attachment.codec_uniform : Attachment.codec.Uniform (Attachment.fields.shape true) :=
  record_uniform (by decide)
    ⟨Field.required_uniform uuid_ignoresOrder, Field.required_uniform uuid_ignoresOrder,
      Field.required_uniform bool_ignoresOrder, Field.optional_uniform uuid_ignoresOrder,
      Field.defaulting_uniform bool_ignoresOrder, trivial⟩

theorem Controller.codec_uniform : Controller.codec.Uniform (Controller.fields.shape true) :=
  record_uniform (by decide)
    ⟨Field.required_uniform uuid_ignoresOrder, Field.required_uniform enumeration_ignoresOrder,
      trivial⟩

theorem Inventory.codec_uniform : Inventory.codec.Uniform (Inventory.fields.shape true) :=
  record_uniform (by decide)
    ⟨Field.defaulting_uniform (list_ignoresOrder Vm.codec_uniform.order),
      Field.defaulting_uniform (list_ignoresOrder Cluster.codec_uniform.order),
      Field.defaulting_uniform (list_ignoresOrder Host.codec_uniform.order),
      Field.defaulting_uniform (list_ignoresOrder Disk.codec_uniform.order),
      Field.defaulting_uniform (list_ignoresOrder Attachment.codec_uniform.order),
      Field.defaulting_uniform (list_ignoresOrder Controller.codec_uniform.order), trivial⟩

/-! ## Operations -/

theorem VmUpdate.fields_uniform : VmUpdate.fields.Uniform :=
  ⟨Field.required_uniform Vm.codec_uniform.order, Field.optional_uniform bool_ignoresOrder,
    trivial⟩

theorem VmUpdate.codec_uniform : VmUpdate.codec.Uniform (VmUpdate.fields.shape false) :=
  record_uniform (by decide) VmUpdate.fields_uniform

theorem Operation.codec_uniform :
    Operation.codec.UniformUnion "kind" Operation.variants
      [VmUpdate.fields.shape false, attachFields.shape false, updateDiskFields.shape false,
        detachFields.shape false, diskIdFields.shape false, diskIdFields.shape false] := by
  have hdisk {σ : Type} {get : σ → Disk} : (Field.required "disk" Disk.codec get).Uniform :=
    Field.required_uniform Disk.codec_uniform.order
  have hid {σ : Type} {key : String} {get : σ → Uuid} : (Field.required key .uuid get).Uniform :=
    Field.required_uniform uuid_ignoresOrder
  have hid? {σ : Type} {key : String} {get : σ → Option Uuid} :
      (Field.optional key .uuid get).Uniform :=
    Field.optional_uniform uuid_ignoresOrder
  exact tagged_uniform
    (.cons (Variant.record_uniform (by decide) VmUpdate.fields_uniform)
      (.cons (Variant.record_uniform (by decide) ⟨hdisk, hid, hid?, trivial⟩)
        (.cons (Variant.record_uniform (by decide) ⟨hdisk, hid?, trivial⟩)
          (.cons (Variant.record_uniform (by decide) ⟨hid, hid, trivial⟩)
            (.cons (Variant.record_uniform (by decide) ⟨hid, trivial⟩)
              (.cons (Variant.record_uniform (by decide) ⟨hid, trivial⟩) .nil))))))

/-- **Forms of documents.** Every type is read from its members in any order, at any depth, and from
the list of its fields' values, to the same value or to none. A field without a default must be
there, and no field twice. Other keys are refused, except beside the fields of an operation or of a
machine's update, where they are ignored. -/
theorem decoding_forms_agree :
    Vm.codec.Uniform (Vm.fields.shape true) ∧
    CpuTopology.codec.Uniform (CpuTopology.fields.shape true) ∧
    Disk.codec.Uniform (Disk.fields.shape true) ∧
    Attachment.codec.Uniform (Attachment.fields.shape true) ∧
    Cluster.codec.Uniform (Cluster.fields.shape true) ∧
    Host.codec.Uniform (Host.fields.shape true) ∧
    Controller.codec.Uniform (Controller.fields.shape true) ∧
    Inventory.codec.Uniform (Inventory.fields.shape true) ∧
    VmUpdate.codec.Uniform (VmUpdate.fields.shape false) ∧
    Backing.codec.UniformUnion "type" Backing.variants
      [Backing.sizeFields.shape true, Backing.lunFields.shape true,
        Backing.sizeFields.shape true] ∧
    Operation.codec.UniformUnion "kind" Operation.variants
      [VmUpdate.fields.shape false, Operation.attachFields.shape false,
        Operation.updateDiskFields.shape false, Operation.detachFields.shape false,
        Operation.diskIdFields.shape false, Operation.diskIdFields.shape false] ∧
    Dialect.json.IgnoresOrder ∧ Dialect.deferred.IgnoresOrder :=
  ⟨Vm.codec_uniform, CpuTopology.codec_uniform, Disk.codec_uniform, Attachment.codec_uniform,
    Cluster.codec_uniform, Host.codec_uniform, Controller.codec_uniform, Inventory.codec_uniform,
    VmUpdate.codec_uniform, Backing.codec_uniform, Operation.codec_uniform,
    Dialect.json_ignoresOrder, Dialect.deferred_ignoresOrder⟩

/-- An attachment's fields, of which the last two may be left out. -/
example : Attachment.fields.shape true =
    ⟨["vm_id", "disk_id", "plugged", "snapshot_id", "using_scsi_reservation"],
      ["vm_id", "disk_id", "plugged"], true⟩ := by
  decide

/-- A processor layout is read from its members, from these in another order, and from the list of
its values. -/
example :
    [.record [("sockets", .int 2), ("cores_per_socket", .int 4), ("threads_per_core", .int 1)],
      .record [("threads_per_core", .int 1), ("sockets", .int 2), ("cores_per_socket", .int 4)],
      .list [.int 2, .int 4, .int 1]].map (CpuTopology.codec.read .json) =
    List.replicate 3 (.ok ⟨2, 4, 1⟩) := by
  rfl

end VmAdmission
