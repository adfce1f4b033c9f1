import AssistedInstaller.Go.Prog

/-
  AssistedInstaller.Model.Types — the installer's data (`config.Config`, the
  `models` records it reads, `installer.go`'s constants).

  Strings stay strings where the code compares strings (`Role`,
  `HighAvailabilityMode`, a cluster's `Kind`); a host's stage is the closed
  `models.HostStage` enumeration. Counts are `Nat`: a list's length cannot
  overflow Go's `int`.
-/

namespace AssistedInstaller

instance decEqExcept {ε α : Type} [DecidableEq ε] [DecidableEq α] : DecidableEq (Except ε α)
  | .ok a, .ok b => if h : a = b then isTrue (h ▸ rfl) else isFalse fun e => h (by cases e; rfl)
  | .error a, .error b => if h : a = b then isTrue (h ▸ rfl) else isFalse fun e => h (by cases e; rfl)
  | .ok _, .error _ => isFalse fun e => by cases e
  | .error _, .ok _ => isFalse fun e => by cases e

/-- `models.HostStage`. -/
inductive HostStage where
  | startingInstallation
  | installing
  | writingImageToDisk
  | waitingForControlPlane
  | waitingForBootkube
  | waitingForController
  | waitingForIgnition
  | configuring
  | joined
  | rebooting
  | done
  | failed
  deriving DecidableEq, Repr

def hostRoleBootstrap : String := "bootstrap"
def hostRoleMaster : String := "master"
def hostRoleWorker : String := "worker"
def clusterHighAvailabilityModeNone : String := "None"
def clusterKindAddHostsCluster : String := "AddHostsCluster"
def logsStateRequested : String := "requested"

def installDir : String := "/opt/install-dir"
def kubeconfigPath : String := "/opt/openshift/auth/kubeconfig"
def minMasterNodes : Nat := 2
def dockerConfigFile : String := "/root/.docker/config.json"
def assistedControllerNamespace : String := "assisted-installer"
def extractRetryCount : Nat := 3
def ovnKubernetes : String := "OVNKubernetes"
def numMasterNodes : Int := 3
def singleNodeMasterIgnitionPath : String := "/opt/openshift/master.ign"
def waitingForMastersStatusInfo : String := "Waiting for masters to join bootstrap control plane"
def waitingForBootstrapToPrepare : String := "Waiting for bootstrap node preparation"
def bootkubeDoneMarker : String := "/opt/openshift/.bootkube.done"

/-- The fields of `config.Config` the installer reads. `role` and `device` are the two the
installer rewrites in place (`i.Config.Role = ...`, `i.Config.Device = ...`). -/
structure Config where
  role : String
  device : String
  clusterID : String
  infraEnvID : String
  hostID : String
  highAvailabilityMode : String
  openshiftVersion : String
  mcoImage : String
  installerArgs : List String
  disksToFormat : List String
  dryRunEnabled : Bool
  fakeRebootMarkerPath : String
  skipInstallationDiskCleanup : Bool
  deriving DecidableEq, Repr

/-- A `context.Context`: whether its `Done()` channel is closed. -/
structure Context where
  done : Bool
  deriving DecidableEq, Repr

/-- `context.Background()` and `context.TODO()`: never cancelled. -/
def Context.background : Context := ⟨false⟩

/-- The fields of `models.Host` the installer reads (`Progress.CurrentStage` as `currentStage`). -/
structure Host where
  id : String
  infraEnvID : String
  currentStage : HostStage
  deriving DecidableEq, Repr

/-- `inventory_client.HostData`. -/
structure HostData where
  host : Host
  ips : List String
  deriving DecidableEq, Repr

/-- A `map[string]inventory_client.HostData`, in the order a `range` over it visits it. -/
abbrev HostsMap := List (String × HostData)

/-- `models.Cluster`, with `swag.StringValue(cluster.Kind)`. -/
structure Cluster where
  kind : String
  deriving DecidableEq, Repr

/-- A `v1.Node`: its name, conditions (type, status) and addresses. -/
structure Node where
  name : String
  conditions : List (String × String)
  addresses : List String
  deriving DecidableEq, Repr

/-- A `v1.Event` of the controller's namespace. -/
structure K8sEvent where
  name : String
  deriving DecidableEq, Repr

/-- An ignition document: its nested `Ignition.Config` and the rest (files, units). -/
structure IgnitionConfig where
  config : List String
  rest : List String
  deriving DecidableEq, Repr

/-- Modelled from the spec: `ignition.EmptyIgnitionConfig`, "an EmptyIgnitionConfig constant used
when suppressing the nested `Ignition.Config` during single-node merge". -/
def emptyIgnitionConfig : List String := []

/-- A version as `hashicorp/go-version` parses it. -/
structure Version where
  segments : List Nat
  prerelease : String
  deriving DecidableEq, Repr

end AssistedInstaller
