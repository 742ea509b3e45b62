import VmAdmission.Query

/-!
# Consultations

A consultation is a computation that may put queries to the services. It says what is asked and what
is done with each answer, and nothing about where answers come from. A fault ends it, since only an
answer is handed on.

A consultation is run against services that may answer differently each time (`Consult.run`), which
keeps the list of what was asked; or evaluated by a fixed answer to every query (`Consult.eval`).
`run_eq_eval` ties the two.
-/

namespace VmAdmission

/-- A computation that may consult the services. -/
inductive Consult (α : Type) : Type where
  | done (x : α)
  | ask (q : Query) (next : q.Answer → Consult α)

/-- The services, where an answer may depend on what was asked before it, the oldest query
first. -/
abbrev Services := List Query → (q : Query) → Except Fault q.Answer

/-- A fixed answer to every query. -/
abbrev Answers := (q : Query) → Except Fault q.Answer

/-- Services that always give the same answers. -/
def Answers.toServices (answers : Answers) : Services := fun _ q => answers q

namespace Consult

variable {α β : Type}

/-- One consultation behind another. -/
def bind : Consult α → (α → Consult β) → Consult β
  | .done x, f => f x
  | .ask q next, f => .ask q fun a => (next a).bind f

instance : Monad Consult where
  pure := .done
  bind := bind

@[simp] theorem pure_eq_done (x : α) : (pure x : Consult α) = .done x := rfl

@[simp] theorem done_bind (x : α) (f : α → Consult β) : (Consult.done x >>= f) = f x := rfl

@[simp] theorem ask_bind (q : Query) (next : q.Answer → Consult α) (f : α → Consult β) :
    (Consult.ask q next >>= f) = .ask q fun a => next a >>= f := rfl

/-- Puts a query. -/
def query (q : Query) : Consult q.Answer := .ask q .done

/-! ## Questions to the inventory -/

/-- The machine with an identifier. -/
def vm? (id : Uuid) : Consult (Option Vm) := query (.inventory (.vm id))

/-- The cluster with an identifier. -/
def cluster? (id : Uuid) : Consult (Option Cluster) := query (.inventory (.cluster id))

/-- The host with an identifier. -/
def host? (id : Uuid) : Consult (Option Host) := query (.inventory (.host id))

/-- The disk with an identifier. -/
def disk? (id : Uuid) : Consult (Option Disk) := query (.inventory (.disk id))

/-- Every attachment of a disk, with its machine. -/
def attachmentsOf (disk : Uuid) : Consult (List (Vm × Attachment)) :=
  query (.inventory (.attachmentsOf disk))

/-- The disks plugged to a machine itself, with their attachments. -/
def pluggedDisksOf (vm : Uuid) : Consult (List (Disk × Attachment)) :=
  query (.inventory (.disksOf vm true))

/-- Whether a machine of the storage pool bears the name. -/
def isNameInUse (name : String) (storagePool : Uuid) : Consult Bool :=
  query (.inventory (.isNameInUse name storagePool))

/-- Whether a machine carries a controller of the kind. -/
def hasController (vm : Uuid) (kind : ControllerKind) : Consult Bool :=
  query (.inventory (.hasController vm kind))

/-! ## Questions to the catalog of operating systems -/

/-- Whether an operating system supports a disk interface at a version. -/
def supportsInterface (os : OsId) (v : Version) (i : DiskInterface) : Consult Bool :=
  query (.os (.supportsInterface os v i))

/-- The name of an operating system. -/
def osName (os : OsId) : Consult String := query (.os (.name os))

/-- Whether an operating system is of the Windows family. -/
def isWindows (os : OsId) : Consult Bool := query (.os (.isWindows os))

/-- The least and the greatest memory of an operating system at a version. -/
def memoryBounds (os : OsId) (v : Version) : Consult (UInt64 × UInt64) :=
  query (.os (.memoryBounds os v))

/-- Whether an operating system runs on a processor model at a version. -/
def supportsCpu (os : OsId) (v : Version) (cpu : String) : Consult Bool :=
  query (.os (.supportsCpu os v cpu))

/-! ## Questions to the settings -/

/-- Whether a version provides a feature. -/
def supportsFeature (f : Feature) (v : Version) : Consult Bool :=
  query (.settings (.supportsFeature f v))

/-- The value of a limit at a version. -/
def limit (setting : VersionedSetting) (v : Version) : Consult UInt32 :=
  query (.settings (.limit setting v))

/-- The greatest length of a machine's name. -/
def maxNameLength (isWindows : Bool) : Consult UInt64 :=
  query (.settings (.maxNameLength isWindows))

/-- The least memory of any machine. -/
def minMemory : Consult UInt64 := query (.settings .minMemory)

/-- The numbers of monitors that a machine may have. -/
def monitorCounts : Consult (List UInt32) := query (.settings .monitorCounts)

/-- Whether the managed hosted-engine machine may be edited. -/
def allowsProtectedEditing : Consult Bool := query (.settings .allowsProtectedEditing)

/-! ## Running -/

/-- Runs a consultation behind the queries asked so far: its result, and all the queries asked. A
query that met a fault is the last. -/
def run (services : Services) : Consult α → List Query → Except Fault α × List Query
  | .done x, asked => (.ok x, asked)
  | .ask q next, asked =>
    match services asked q with
    | .error fault => (.error fault, asked ++ [q])
    | .ok a => (next a).run services (asked ++ [q])

/-- The result of a consultation under fixed answers. -/
def eval (answers : Answers) : Consult α → Except Fault α
  | .done x => .ok x
  | .ask q next =>
    match answers q with
    | .error fault => .error fault
    | .ok a => (next a).eval answers

@[simp] theorem eval_done (answers : Answers) (x : α) :
    (Consult.done x).eval answers = .ok x := rfl

theorem eval_ask (answers : Answers) (q : Query) (next : q.Answer → Consult α) :
    (Consult.ask q next).eval answers = answers q >>= fun a => (next a).eval answers := by
  rw [eval]
  cases answers q <;> rfl

theorem eval_bind (answers : Answers) (c : Consult α) (f : α → Consult β) :
    (c >>= f).eval answers = c.eval answers >>= fun x => (f x).eval answers := by
  induction c with
  | done x => rfl
  | ask q next ih =>
    rw [ask_bind, eval_ask, eval_ask]
    cases answers q with
    | error fault => rfl
    | ok a => exact ih a

/-- Under fixed answers, what was asked before does not matter. -/
theorem run_eq_eval (answers : Answers) (c : Consult α) (asked : List Query) :
    (c.run answers.toServices asked).1 = c.eval answers := by
  induction c generalizing asked with
  | done x => rfl
  | ask q next ih =>
    rw [run, eval]
    show Prod.fst (match answers q with | .error fault => _ | .ok a => _) = _
    cases answers q with
    | error fault => rfl
    | ok a => exact ih a _

end Consult

end VmAdmission
