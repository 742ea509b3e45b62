import VmAdmission.Codec.Record

/-!
# Clusters and hosts
-/

namespace VmAdmission

/-- A processor architecture. -/
inductive Architecture where
  | x86_64 | ppc64 | s390x
deriving DecidableEq

namespace Architecture

/-- All architectures. -/
def all : List Architecture := [.x86_64, .ppc64, .s390x]

/-- The architecture's name in documents. -/
def name : Architecture → String
  | .x86_64 => "x86_64"
  | .ppc64 => "ppc64"
  | .s390x => "s390x"

/-- The codec of architectures. -/
def codec : Codec Architecture := .enumeration all name

end Architecture

/-- A cluster of hosts. -/
structure Cluster where
  id : Uuid
  compatibilityVersion : Version
  architecture : Architecture
  /-- The processor model that every host of the cluster provides. -/
  cpuName : Option String
deriving DecidableEq

namespace Cluster

/-- The fields of a cluster. -/
def fields : Codec.Fields Cluster [Uuid, Version, Architecture, Option String] :=
  .cons (.required "id" .uuid Cluster.id) <|
  .cons (.required "compatibility_version" .version Cluster.compatibilityVersion) <|
  .cons (.defaulting "architecture" Architecture.codec Cluster.architecture .x86_64) <|
  .cons (.optional "cpu_name" .text Cluster.cpuName) .nil

/-- The codec of clusters. -/
def codec : Codec Cluster :=
  .record true fields fun (id, compatibilityVersion, architecture, cpuName, _) =>
    { id, compatibilityVersion, architecture, cpuName }

end Cluster

/-- A compute host. -/
structure Host where
  id : Uuid
  name : String
  clusterId : Uuid
deriving DecidableEq

namespace Host

/-- The fields of a host. -/
def fields : Codec.Fields Host [Uuid, String, Uuid] :=
  .cons (.required "id" .uuid Host.id) <|
  .cons (.required "name" .text Host.name) <|
  .cons (.required "cluster_id" .uuid Host.clusterId) .nil

/-- The codec of hosts. -/
def codec : Codec Host :=
  .record true fields fun (id, name, clusterId, _) => { id, name, clusterId }

end Host

end VmAdmission
