import AssistedInstaller.Model.Types

/-
  AssistedInstaller.Model.Collaborators — the installer's boundary: the calls it
  makes on `ops.Ops`, `inventory_client.InventoryClient`, `k8s_client.K8SClient`
  and `ignition.Ignition`, the answers they give, and the events a run records.

  `Env` is everything src/ leaves open. Its answer functions see the history (every
  event recorded before the call), so one `Env` stands for any sequence of answers,
  failures included, chosen adaptively. It also fixes the two `select` statements
  whose ready case the scheduler picks, and the helpers and constants of packages
  src/ does not contain (`common`, `hashicorp/go-version`, `path/filepath`, the
  installer's SSH constants), each a field the theorems quantify over.

  A trace holds the calls with their answers (`Event.call`) and five events that
  are not calls: `progress` (the installer's own `UpdateHostInstallProgress`, with
  the inventory's answer when a report was sent), `errGroupWait` (what
  `bootstrapErrGroup.Wait()` returned), `timedOut` (the timeout timer of
  `WaitForPredicate` fired), `mastersReady` (`waitForMasterNodes` returned through
  its predicate, with the names it counted) and `ctxDone` (a wait loop returned
  through `ctx.Done()`).
-/

namespace AssistedInstaller

inductive Call where
  | formatDisk (disk : String)
  | evaluateDiskSymlink (device : String)
  | getVGByPV (device : String)
  | removeVG (vgName : String)
  | removePV (device : String)
  | isRaidMember (device : String)
  | getRaidDevices (device : String)
  | cleanRaidMembership (device : String)
  | wipefs (device : String)
  | mkdir (dir : String)
  | writeImageToDisk (ignitionPath device : String) (installerArgs : List String)
  | setBootOrder (device : String)
  | reboot
  | systemctlAction (args : List String)
  | execPrivilegeCommand (command : String) (args : List String)
  | extractFromIgnition (ignitionPath fileToExtract : String)
  | createOpenshiftSshManifest (manifest tmpl keyPath : String)
  | prepareController
  | reloadHostFile (path : String)
  | getHostname
  | createRandomHostname (data : String)
  | uploadInstallationLogs (isBootstrap : Bool)
  | newUUID
  | updateHostInstallProgress (infraEnvID hostID : String) (stage : HostStage) (info : String)
  | hostLogProgressReport (infraEnvID hostID state : String)
  | clusterLogProgressReport (clusterID state : String)
  | downloadFile (filename dest : String)
  | downloadHostIgnition (infraEnvID hostID dest : String)
  | getCluster
  | listsHostsForRole (role : String)
  | getEnabledHostsNamesHosts
  | newK8sClient (kubeconfigPath : String)
  | getNetworkType
  | getControlPlaneReplicas
  | patchControlPlaneReplicas
  | unPatchControlPlaneReplicas
  | patchEtcd
  | listMasterNodes
  | listEvents (ns : String)
  /-- `uploadControllerLogs`: `common.GetPodInStatus` and `common.UploadPodLogs`. -/
  | uploadControllerLogs
  | getMCSLogs
  /-- `common.SetConfiguringStatusForHosts`, handed the map and the MCS logs. -/
  | setConfiguringStatusForHosts (inventoryHostsMapWithIp : HostsMap) (logs : String)
  | parseIgnitionFile (path : String)
  | mergeIgnitionConfig (base overlay : IgnitionConfig)
  | writeIgnitionFile (path : String) (config : IgnitionConfig)
  deriving DecidableEq, Repr

/-- A call's answer, by the Go type it returns. `none`: the installer keeps no answer. -/
inductive Resp where
  | none
  | unit (r : Except GoError Unit)
  | text (r : Except GoError String)
  | value (s : String)
  | flag (b : Bool)
  | strings (r : Except GoError (List String))
  | int (r : Except GoError Int)
  | cluster (r : Except GoError Cluster)
  | hosts (r : Except GoError (List Host))
  | hostsMap (r : Except GoError HostsMap)
  | nodes (r : Except GoError (List Node))
  | events (r : Except GoError (List K8sEvent))
  | ignition (r : Except GoError IgnitionConfig)
  deriving DecidableEq, Repr

inductive Event where
  | call (c : Call) (r : Resp)
  | progress (stage : HostStage) (info : String) (sent : Option (Except GoError Unit))
  | errGroupWait (r : Except GoError Unit)
  | timedOut
  | mastersReady (readyMasters : List String)
  | ctxDone
  deriving DecidableEq, Repr

structure Env where
  unit : List Event → Call → Except GoError Unit
  text : List Event → Call → Except GoError String
  value : List Event → Call → String
  flag : List Event → Call → Bool
  strings : List Event → Call → Except GoError (List String)
  int : List Event → Call → Except GoError Int
  cluster : List Event → Call → Except GoError Cluster
  hosts : List Event → Call → Except GoError (List Host)
  hostsMap : List Event → Call → Except GoError HostsMap
  nodes : List Event → Call → Except GoError (List Node)
  events : List Event → Call → Except GoError (List K8sEvent)
  ignition : List Event → Call → Except GoError IgnitionConfig
  /-- `WaitForPredicate`'s `select`: the timeout timer is the case that fires. -/
  timerFires : List Event → Bool
  /-- `waitForController`'s `select`: the upload-logs ticker is the case that fires. -/
  logsTickerFires : List Event → Bool
  newVersion : String → Except GoError Version
  versionLessThan : Version → Version → Bool
  isK8sNodeIsReady : Node → Bool
  buildHostsMapIPAddressBased : HostsMap → HostsMap
  hostMatchByNameOrIPAddress : Node → HostsMap → HostsMap → Option HostData
  /-- The map as `common.SetConfiguringStatusForHosts` leaves it: it moves the hosts it finds in
  the logs through the map's pointers. -/
  setConfiguringStatusForHosts : HostsMap → String → HostsMap
  filepathJoin : String → String → String
  sshDir : String
  sshKeyPath : String
  sshPubKeyPath : String
  assistedInstallerSshManifest : String
  sshManifestTmpl : String
  assistedControllerIsReadyEvent : String

abbrev Go := Prog Env Event

def callUnit (c : Call) : Go Unit := Prog.query (fun env h => env.unit h c) (fun r => .call c (.unit r))
def callText (c : Call) : Go String := Prog.query (fun env h => env.text h c) (fun r => .call c (.text r))
def callValue (c : Call) : Go String := Prog.observe (fun env h => env.value h c) (fun r => .call c (.value r))
def callFlag (c : Call) : Go Bool := Prog.observe (fun env h => env.flag h c) (fun r => .call c (.flag r))
def callStrings (c : Call) : Go (List String) :=
  Prog.query (fun env h => env.strings h c) (fun r => .call c (.strings r))
def callInt (c : Call) : Go Int := Prog.query (fun env h => env.int h c) (fun r => .call c (.int r))
def callCluster (c : Call) : Go Cluster :=
  Prog.query (fun env h => env.cluster h c) (fun r => .call c (.cluster r))
def callHosts (c : Call) : Go (List Host) := Prog.query (fun env h => env.hosts h c) (fun r => .call c (.hosts r))
def callHostsMap (c : Call) : Go HostsMap :=
  Prog.query (fun env h => env.hostsMap h c) (fun r => .call c (.hostsMap r))
def callNodes (c : Call) : Go (List Node) := Prog.query (fun env h => env.nodes h c) (fun r => .call c (.nodes r))
def callEvents (c : Call) : Go (List K8sEvent) :=
  Prog.query (fun env h => env.events h c) (fun r => .call c (.events r))
def callIgnition (c : Call) : Go IgnitionConfig :=
  Prog.query (fun env h => env.ignition h c) (fun r => .call c (.ignition r))
/-- A call whose answer the installer never looks at. -/
def notify (c : Call) : Go Unit := Prog.emit (.call c .none)

namespace Ops
def formatDisk (disk : String) : Go Unit := callUnit (.formatDisk disk)
def evaluateDiskSymlink (device : String) : Go String := callValue (.evaluateDiskSymlink device)
def getVGByPV (device : String) : Go String := callText (.getVGByPV device)
def removeVG (vgName : String) : Go Unit := callUnit (.removeVG vgName)
def removePV (device : String) : Go Unit := callUnit (.removePV device)
def isRaidMember (device : String) : Go Bool := callFlag (.isRaidMember device)
def getRaidDevices (device : String) : Go (List String) := callStrings (.getRaidDevices device)
def cleanRaidMembership (device : String) : Go Unit := callUnit (.cleanRaidMembership device)
def wipefs (device : String) : Go Unit := callUnit (.wipefs device)
def mkdir (dir : String) : Go Unit := callUnit (.mkdir dir)
def writeImageToDisk (ignitionPath device : String) (installerArgs : List String) : Go Unit :=
  callUnit (.writeImageToDisk ignitionPath device installerArgs)
def setBootOrder (device : String) : Go Unit := callUnit (.setBootOrder device)
def reboot : Go Unit := callUnit .reboot
def systemctlAction (args : List String) : Go Unit := callUnit (.systemctlAction args)
def execPrivilegeCommand (command : String) (args : List String) : Go String :=
  callText (.execPrivilegeCommand command args)
def extractFromIgnition (ignitionPath fileToExtract : String) : Go Unit :=
  callUnit (.extractFromIgnition ignitionPath fileToExtract)
def createOpenshiftSshManifest (manifest tmpl keyPath : String) : Go Unit :=
  callUnit (.createOpenshiftSshManifest manifest tmpl keyPath)
def prepareController : Go Unit := callUnit .prepareController
def reloadHostFile (path : String) : Go Unit := callUnit (.reloadHostFile path)
def getHostname : Go String := callText .getHostname
def createRandomHostname (data : String) : Go Unit := callUnit (.createRandomHostname data)
def uploadInstallationLogs (isBootstrap : Bool) : Go String := callText (.uploadInstallationLogs isBootstrap)
def getMCSLogs : Go String := callText .getMCSLogs
end Ops

namespace InventoryClient
def updateHostInstallProgress (infraEnvID hostID : String) (stage : HostStage) (info : String) : Go Unit :=
  callUnit (.updateHostInstallProgress infraEnvID hostID stage info)
def hostLogProgressReport (infraEnvID hostID state : String) : Go Unit :=
  notify (.hostLogProgressReport infraEnvID hostID state)
def clusterLogProgressReport (clusterID state : String) : Go Unit :=
  notify (.clusterLogProgressReport clusterID state)
def downloadFile (filename dest : String) : Go Unit := callUnit (.downloadFile filename dest)
def downloadHostIgnition (infraEnvID hostID dest : String) : Go Unit :=
  callUnit (.downloadHostIgnition infraEnvID hostID dest)
def getCluster : Go Cluster := callCluster .getCluster
def listsHostsForRole (role : String) : Go (List Host) := callHosts (.listsHostsForRole role)
def getEnabledHostsNamesHosts : Go HostsMap := callHostsMap .getEnabledHostsNamesHosts
end InventoryClient

namespace K8sClient
/-- The `K8SClientBuilder` the installer was built with. -/
def build (path : String) : Go Unit := callUnit (.newK8sClient path)
def getNetworkType : Go String := callText .getNetworkType
def getControlPlaneReplicas : Go Int := callInt .getControlPlaneReplicas
def patchControlPlaneReplicas : Go Unit := callUnit .patchControlPlaneReplicas
def unPatchControlPlaneReplicas : Go Unit := callUnit .unPatchControlPlaneReplicas
def patchEtcd : Go Unit := callUnit .patchEtcd
def listMasterNodes : Go (List Node) := callNodes .listMasterNodes
def listEvents (ns : String) : Go (List K8sEvent) := callEvents (.listEvents ns)
end K8sClient

namespace IgnitionAPI
def parseIgnitionFile (path : String) : Go IgnitionConfig := callIgnition (.parseIgnitionFile path)
def mergeIgnitionConfig (base overlay : IgnitionConfig) : Go IgnitionConfig :=
  callIgnition (.mergeIgnitionConfig base overlay)
def writeIgnitionFile (path : String) (config : IgnitionConfig) : Go Unit :=
  callUnit (.writeIgnitionFile path config)
end IgnitionAPI

/-- `uuid.New()`. -/
def newUUID : Go String := callValue .newUUID

/-! ## Kinds of events

The classes of events the theorems tell apart: the three node-terminating calls, the
image write, the boot-order and log-upload calls whose errors `InstallNode` drops, the
control-plane replicas and etcd patches, the two polls of the master wait
(`ListMasterNodes`, `GetEnabledHostsNamesHosts`), each stage report, and the events
that are not calls. Every other call is `other`. -/

inductive Kind where
  | reboot
  | stopAgent
  | touch
  | write
  | setBootOrder
  | uploadLogs
  | patchReplicas
  | unPatchReplicas
  | patchEtcd
  | listMasterNodes
  | enabledHosts
  | progress (stage : HostStage)
  | errGroupWait
  | timedOut
  | mastersReady
  | ctxDone
  | other
  deriving DecidableEq, Repr

def Call.kind : Call → Kind
  | .reboot => .reboot
  | .systemctlAction ["stop", "agent.service"] => .stopAgent
  | .execPrivilegeCommand "touch" _ => .touch
  | .writeImageToDisk .. => .write
  | .setBootOrder _ => .setBootOrder
  | .uploadInstallationLogs _ => .uploadLogs
  | .patchControlPlaneReplicas => .patchReplicas
  | .unPatchControlPlaneReplicas => .unPatchReplicas
  | .patchEtcd => .patchEtcd
  | .listMasterNodes => .listMasterNodes
  | .getEnabledHostsNamesHosts => .enabledHosts
  | _ => .other

def Event.kind : Event → Kind
  | .call c _ => c.kind
  | .progress stage _ _ => .progress stage
  | .errGroupWait _ => .errGroupWait
  | .timedOut => .timedOut
  | .mastersReady _ => .mastersReady
  | .ctxDone => .ctxDone

/-- Every event `m` records is of a kind in `ks`. -/
def Kinds (ks : List Kind) {α : Type} (m : Go α) : Prop := Prog.Emits (fun x => x.kind ∈ ks) m

section
variable {ks : List Kind} {c : Call}

theorem kind_mem_other (h : c.kind = .other) : c.kind ∈ [Kind.other] := h ▸ List.mem_singleton_self _

/-- A call of kind `k`, with `k` in the list: the kind is named so that `decide` sees a closed goal. -/
theorem kind_mem (k : Kind) (h : c.kind = k) (hk : k ∈ ks) : c.kind ∈ ks := h ▸ hk

theorem kinds_callUnit (h : c.kind ∈ ks) : Kinds ks (callUnit c) := Prog.Emits.query fun _ => h
theorem kinds_callText (h : c.kind ∈ ks) : Kinds ks (callText c) := Prog.Emits.query fun _ => h
theorem kinds_callValue (h : c.kind ∈ ks) : Kinds ks (callValue c) := Prog.Emits.observe fun _ => h
theorem kinds_callFlag (h : c.kind ∈ ks) : Kinds ks (callFlag c) := Prog.Emits.observe fun _ => h
theorem kinds_callStrings (h : c.kind ∈ ks) : Kinds ks (callStrings c) := Prog.Emits.query fun _ => h
theorem kinds_callInt (h : c.kind ∈ ks) : Kinds ks (callInt c) := Prog.Emits.query fun _ => h
theorem kinds_callCluster (h : c.kind ∈ ks) : Kinds ks (callCluster c) := Prog.Emits.query fun _ => h
theorem kinds_callHosts (h : c.kind ∈ ks) : Kinds ks (callHosts c) := Prog.Emits.query fun _ => h
theorem kinds_callHostsMap (h : c.kind ∈ ks) : Kinds ks (callHostsMap c) := Prog.Emits.query fun _ => h
theorem kinds_callNodes (h : c.kind ∈ ks) : Kinds ks (callNodes c) := Prog.Emits.query fun _ => h
theorem kinds_callEvents (h : c.kind ∈ ks) : Kinds ks (callEvents c) := Prog.Emits.query fun _ => h
theorem kinds_callIgnition (h : c.kind ∈ ks) : Kinds ks (callIgnition c) := Prog.Emits.query fun _ => h
theorem kinds_notify (h : c.kind ∈ ks) : Kinds ks (notify c) := Prog.Emits.emit h

/-! ### What one call returns -/

theorem ends_callUnit : Prog.Ends (callUnit c) fun t r => t = [.call c (.unit r)] := Prog.Ends.query _ _
theorem ends_callStrings : Prog.Ends (callStrings c) fun t r => t = [.call c (.strings r)] :=
  Prog.Ends.query _ _
theorem ends_callFlag : Prog.Ends (callFlag c) fun t r => ∃ b, r = .ok b ∧ t = [.call c (.flag b)] :=
  Prog.Ends.observe _ _

theorem Kinds.mono {α : Type} {m : Go α} {ks' : List Kind} (hm : Kinds ks m) (h : ks ⊆ ks') :
    Kinds ks' m :=
  Prog.Emits.mono hm fun _ hx => h hx

/-- `Kinds.mono` towards a list given first. -/
theorem Kinds.widen {α : Type} {m : Go α} (ks' : List Kind) (hm : Kinds ks m) (h : ks ⊆ ks') :
    Kinds ks' m :=
  hm.mono h

/-- A program whose kinds leave `k` out records no event of kind `k`. -/
theorem Kinds.avoids {α : Type} {m : Go α} {k : Kind} (hm : Kinds ks m) (hk : k ∉ ks) :
    Prog.Emits (fun x => ¬x.kind = k) m :=
  Prog.Emits.mono hm fun _ hx h => hk (h ▸ hx)

end

end AssistedInstaller
