namespace ClusterLedger

structure Definition where
  group : String
  version : String
  plural : String
  kind : String
  deriving DecidableEq, Repr

namespace Definition

def apiVersion (d : Definition) : String :=
  if d.group = "" then d.version else d.group ++ "/" ++ d.version

def cacheKey (d : Definition) : String := d.apiVersion ++ "/" ++ d.plural

def cluster : Definition := ⟨"cluster.x-k8s.io", "v1beta1", "clusters", "Cluster"⟩

def machineDeployment : Definition :=
  ⟨"cluster.x-k8s.io", "v1beta1", "machinedeployments", "MachineDeployment"⟩

def machine : Definition := ⟨"cluster.x-k8s.io", "v1beta1", "machines", "Machine"⟩

def controlPlane : Definition :=
  ⟨"controlplane.cluster.x-k8s.io", "v1beta1", "kubeadmcontrolplanes", "KubeadmControlPlane"⟩

def configTemplate : Definition :=
  ⟨"bootstrap.cluster.x-k8s.io", "v1beta1", "kubeadmconfigtemplates", "KubeadmConfigTemplate"⟩

def providerCluster : Definition :=
  ⟨"infrastructure.cluster.x-k8s.io", "v1beta3", "vcdclusters", "VCDCluster"⟩

def machineTemplate : Definition :=
  ⟨"infrastructure.cluster.x-k8s.io", "v1beta3", "vcdmachinetemplates", "VCDMachineTemplate"⟩

def resourceSetBinding : Definition :=
  ⟨"addons.cluster.x-k8s.io", "v1beta1", "clusterresourcesetbindings", "ClusterResourceSetBinding"⟩

/-- The types that have to be served; resource set bindings are optional. -/
def required : List Definition :=
  [cluster, machineDeployment, machine, controlPlane, configTemplate, providerCluster, machineTemplate]

end Definition
end ClusterLedger
