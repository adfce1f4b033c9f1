import AssistedInstaller.Installer.Bootstrap
import AssistedInstaller.Installer.Masters
import AssistedInstaller.Utils.Wait

/-
  AssistedInstaller.Installer.ControlPlane — what the bootstrap does once its image is
  written: `waitForControlPlane` with the control-plane replicas patch
  (`shouldControlPlaneReplicasPatchApplied`, `waitForMinMasterNodes`), the etcd patch,
  `waitForBootkube` and `waitForController`.

  `utils.IsVersionLessThan47` compares with `hashicorp/go-version`, which src/ does not
  contain: `Env.newVersion` parses, `Env.versionLessThan` compares.
  - `waitForControlPlane_kinds`, `waitForControlPlane_reports`: the events it may
    record, and that it reports WaitingForControlPlane, WaitingForBootkube and
    WaitingForController in this order.
  - `waitForControlPlane_shows_*`: under a context that is never cancelled, it returns
    only after `waitForMasterNodes` returned through its predicate, bootkube's marker
    was found, and the controller's events held the ready event.
-/

namespace AssistedInstaller

/-- `utils.IsVersionLessThan47`. -/
def isVersionLessThan47 (env : Env) (openshiftVersion : String) : Except GoError Bool := do
  let clusterVersion ← env.newVersion openshiftVersion
  let v47 ← env.newVersion "4.7"
  pure (env.versionLessThan clusterVersion v47)

/-- `utils.EtcdPatchRequired`. -/
def etcdPatchRequired (env : Env) (openshiftVersion : String) : Except GoError Bool :=
  isVersionLessThan47 env openshiftVersion

/-- `installer.waitForNetworkType`. -/
def waitForNetworkType (fuel : Nat) : Go Unit :=
  waitForPredicate (fun () => do
    let r ← Prog.attempt K8sClient.getNetworkType
    pure (r matches .ok _, ())) fuel ()

/-- `installer.shouldControlPlaneReplicasPatchApplied`. -/
def shouldControlPlaneReplicasPatchApplied (i : Config) (fuel : Nat) : Go Bool := do
  let controlPlanePatchRequired ← Prog.compute fun env => isVersionLessThan47 env i.openshiftVersion
  if !controlPlanePatchRequired then pure false else do
  waitForNetworkType fuel
  let nt ← K8sClient.getNetworkType
  if nt ≠ ovnKubernetes then pure false else do
  let origControlPlaneReplicas ← K8sClient.getControlPlaneReplicas
  if origControlPlaneReplicas ≠ numMasterNodes then pure false else pure true

/-- `installer.waitForMinMasterNodes`. -/
def waitForMinMasterNodes (i : Config) (ctx : Context) (fuel : Nat) : Go Unit := do
  let shouldPatchControlPlaneReplicas ← shouldControlPlaneReplicasPatchApplied i fuel
  (if shouldPatchControlPlaneReplicas then K8sClient.patchControlPlaneReplicas else pure ())
  waitForMasterNodes i ctx minMasterNodes fuel
  if shouldPatchControlPlaneReplicas then K8sClient.unPatchControlPlaneReplicas else pure ()

/-- `installer.uploadControllerLogs`: best effort, its failures only logged. -/
def uploadControllerLogs : Go Unit := notify .uploadControllerLogs

/-- `installer.wasControllerReadyEventSet`; the map of events seen only feeds the log. -/
def wasControllerReadyEventSet : Go Bool := do
  match ← Prog.attempt (K8sClient.listEvents assistedControllerNamespace) with
  | .error _ => pure false
  | .ok newEvents =>
    let env ← Prog.read
    pure (newEvents.any fun event => event.name = env.assistedControllerIsReadyEvent)

/-- The upload-logs ticker's case of `waitForController`'s `select` is the ready one. -/
def logsTickerFires : Go Bool := Prog.choose fun env h => env.logsTickerFires h

/-- `installer.waitForController`. -/
def waitForController (i : Config) (fuel : Nat) : Go Unit := do
  updateHostInstallProgress i .waitingForController "waiting for controller pod ready event"
  Prog.loop (fun () => tick i) fuel ()
where
  /-- One turn of the `for`-`select`. -/
  tick (i : Config) : Go (Unit ⊕ Unit) := do
    if ← logsTickerFires then
      uploadControllerLogs
      pure (.inl ())
    else if ← wasControllerReadyEventSet then
      InventoryClient.clusterLogProgressReport i.clusterID logsStateRequested
      uploadControllerLogs
      pure (.inr ())
    else pure (.inl ())

/-- `installer.waitForControlPlane`. -/
def waitForControlPlane (i : Config) (ctx : Context) (fuel : Nat) : Go Unit := do
  Ops.reloadHostFile "/etc/resolv.conf"
  K8sClient.build kubeconfigPath
  updateHostInstallProgress i .waitingForControlPlane waitingForMastersStatusInfo
  waitForMinMasterNodes i ctx fuel
  let patch ← Prog.compute fun env => etcdPatchRequired env i.openshiftVersion
  (if patch then K8sClient.patchEtcd else pure ())
  waitForBootkube i ctx fuel
  waitForController i fuel

/-! ## Which events -/

section
variable (i : Config)

theorem waitForNetworkType_kinds (n : Nat) : Kinds [.other, .timedOut] (waitForNetworkType n) :=
  waitForPredicate_emits _ (by simp [Event.kind]) (fun _ =>
    ((kinds_callText (by simp [Call.kind])).attempt).bind fun _ => Prog.Emits.pure _) n ()

theorem shouldControlPlaneReplicasPatchApplied_kinds (n : Nat) :
    Kinds [.other, .timedOut] (shouldControlPlaneReplicasPatchApplied i n) := by
  refine (Prog.Emits.compute _).bind fun b => ?_
  split
  · exact Prog.Emits.pure _
  refine (waitForNetworkType_kinds n).bind fun _ => (kinds_callText (by simp [Call.kind])).bind fun nt => ?_
  split
  · exact Prog.Emits.pure _
  refine (kinds_callInt (by simp [Call.kind])).bind fun r => ?_
  split <;> exact Prog.Emits.pure _

/-- The kinds of event `waitForMinMasterNodes` may record under a context never cancelled. -/
def minMasterNodesKinds : List Kind :=
  [.other, .timedOut, .enabledHosts, .listMasterNodes, .mastersReady, .patchReplicas, .unPatchReplicas]

/-- The kinds of event `waitForControlPlane` may record under a context never cancelled. -/
def controlPlaneKinds : List Kind :=
  [.other, .timedOut, .enabledHosts, .listMasterNodes, .mastersReady, .patchReplicas, .unPatchReplicas, .patchEtcd,
    .progress .waitingForControlPlane, .progress .waitingForBootkube, .progress .waitingForController]

theorem waitForController_tick_kinds : Kinds [.other] (waitForController.tick i) := by
  refine (Prog.Emits.choose _).bind fun b => ?_
  split
  · exact (kinds_notify (kind_mem_other (by rfl))).bind fun _ => Prog.Emits.pure _
  refine Prog.Emits.bind ?_ fun b => ?_
  · refine (kinds_callEvents (kind_mem_other (by rfl))).attempt.bind fun r => ?_
    split
    · exact Prog.Emits.pure _
    · exact Prog.Emits.read.bind fun _ => Prog.Emits.pure _
  split
  · exact (kinds_notify (kind_mem_other (by rfl))).bind fun _ => (kinds_notify (kind_mem_other (by rfl))).bind
      fun _ => Prog.Emits.pure _
  · exact Prog.Emits.pure _

theorem waitForController_kinds (n : Nat) :
    Kinds [.progress .waitingForController, .other] (waitForController i n) :=
  ((updateHostInstallProgress_kinds i _ _).mono (by simp)).bind fun _ =>
    Prog.Emits.loop (fun _ => (waitForController_tick_kinds i).mono (by simp)) n ()

variable {ctx : Context} (hctx : ctx.done = false)
include hctx

theorem waitForMinMasterNodes_kinds (n : Nat) :
    Kinds minMasterNodesKinds (waitForMinMasterNodes i ctx n) := by
  exact (Kinds.widen _ (shouldControlPlaneReplicasPatchApplied_kinds i n) (by decide)).bind fun _ =>
    (Prog.Emits.ite (kinds_callUnit (by decide)) (Prog.Emits.pure _)).bind fun _ =>
    (Kinds.widen _ (waitForMasterNodes_kinds i minMasterNodes hctx n) (by decide)).bind fun _ =>
    Prog.Emits.ite (kinds_callUnit (by decide)) (Prog.Emits.pure _)

theorem waitForControlPlane_kinds (n : Nat) : Kinds controlPlaneKinds (waitForControlPlane i ctx n) := by
  exact (kinds_callUnit (by decide)).bind fun _ => (kinds_callUnit (by decide)).bind fun _ =>
    (Kinds.widen _ (updateHostInstallProgress_kinds i _ _) (by decide)).bind fun _ =>
    (Kinds.widen _ (waitForMinMasterNodes_kinds i hctx n) (by decide)).bind fun _ =>
    (Prog.Emits.compute _).bind fun _ => (Prog.Emits.ite (kinds_callUnit (by decide)) (Prog.Emits.pure _)).bind
    fun _ => (Kinds.widen _ (waitForBootkube_kinds i hctx n) (by decide)).bind fun _ =>
    Kinds.widen _ (waitForController_kinds i n) (by decide)

end

/-! ## What it reports -/

section
variable (i : Config) (hi : i.hostID ≠ "")
include hi

theorem waitForController_reports (n : Nat) : Reports [.waitingForController] (waitForController i n) :=
  (updateHostInstallProgress_reports i _ _ hi).bind fun _ =>
    reports_of_kinds (Prog.Emits.loop (fun _ => waitForController_tick_kinds i) n ())

theorem waitForControlPlane_reports {ctx : Context} (hctx : ctx.done = false) (n : Nat) :
    Reports [.waitingForControlPlane, .waitingForBootkube, .waitingForController]
      (waitForControlPlane i ctx n) := by
  have hrest : Reports [.waitingForBootkube, .waitingForController]
      (waitForBootkube i ctx n >>= fun _ => waitForController i n) :=
    (waitForBootkube_reports i hctx hi n).bind fun _ => waitForController_reports i hi n
  simp only [waitForControlPlane]
  exact (reports_of_kinds (kinds_callUnit (by decide))).bind fun _ =>
    (reports_of_kinds (kinds_callUnit (by decide))).bind fun _ =>
    (updateHostInstallProgress_reports i _ _ hi).bind fun _ =>
    (reports_nil (waitForMinMasterNodes_kinds i hctx n) (by simp [minMasterNodesKinds])).bind fun _ =>
    (reports_of_kinds (Prog.Emits.compute _)).bind fun patch =>
    (reports_nil (Prog.Emits.ite (kinds_callUnit (by decide : Call.patchEtcd.kind ∈ [Kind.patchEtcd]))
      (Prog.Emits.pure _)) (by simp)).bind fun _ => hrest

end

/-! ## What it waits for -/

/-- `ListEvents` of the controller's namespace answered with the controller's ready event. -/
def ControllerReady (readyEvent : String) (x : Event) : Prop :=
  ∃ events, x = .call (.listEvents assistedControllerNamespace) (.events (.ok events)) ∧
    ∃ event ∈ events, event.name = readyEvent

theorem wasControllerReadyEventSet_true (env : Env) (h : List Event)
    (hr : (wasControllerReadyEventSet env h).1 = .ok true) :
    ∃ x ∈ (wasControllerReadyEventSet env h).2, ControllerReady env.assistedControllerIsReadyEvent x := by
  simp only [wasControllerReadyEventSet, K8sClient.listEvents, callEvents, Prog.attempt_query_bind_run,
    Prog.read_bind_run] at hr ⊢
  cases he : env.events h (.listEvents assistedControllerNamespace) <;>
    simp [he, Prog.read_bind_run] at hr ⊢
  exact ⟨_, rfl, hr⟩

theorem waitForController_shows (i : Config) (n : Nat) :
    Prog.Shows (fun env => ControllerReady env.assistedControllerIsReadyEvent) (waitForController i n) := by
  refine Prog.Shows.bind_right fun _ => Prog.Shows.loop (fun _ env h b hb => ?_) n ()
  have hw := wasControllerReadyEventSet_true env h
  simp only [waitForController.tick, logsTickerFires, Prog.choose_bind_run] at hb ⊢
  by_cases hl : env.logsTickerFires h
  · simp [hl, uploadControllerLogs, notify, Prog.emit_bind_run] at hb
  · simp only [hl, Bool.false_eq_true, if_false, Prog.bind_run] at hb ⊢
    rcases hr : wasControllerReadyEventSet env h with ⟨_ | _ | _, t⟩ <;> rw [hr] at hw hb <;>
      simp only [reduceCtorEq] at hb ⊢
    split at hb
    · obtain ⟨x, hx, hq⟩ := hw (by simp_all)
      exact ⟨x, List.mem_append_left _ hx, hq⟩
    · simp at hb

theorem waitForControlPlane_shows_controller (i : Config) (ctx : Context) (n : Nat) :
    Prog.Shows (fun env => ControllerReady env.assistedControllerIsReadyEvent) (waitForControlPlane i ctx n) := Prog.Shows.bind_right fun _ => Prog.Shows.bind_right fun _ => Prog.Shows.bind_right fun _ =>
    Prog.Shows.bind_right fun _ => Prog.Shows.bind_right fun _ => Prog.Shows.bind_right fun _ =>
    Prog.Shows.bind_right fun _ => waitForController_shows i n

variable (i : Config) {ctx : Context} (hctx : ctx.done = false)
include hctx

theorem waitForMinMasterNodes_shows (n : Nat) :
    Prog.Shows (fun _ => MastersReady minMasterNodes) (waitForMinMasterNodes i ctx n) := Prog.Shows.bind_right fun _ => Prog.Shows.bind_right fun _ =>
    Prog.Shows.bind_left (waitForMasterNodes_shows i _ hctx n)

theorem waitForControlPlane_shows_masters (n : Nat) :
    Prog.Shows (fun _ => MastersReady minMasterNodes) (waitForControlPlane i ctx n) :=
  Prog.Shows.bind_right fun _ => Prog.Shows.bind_right fun _ => Prog.Shows.bind_right fun _ =>
    Prog.Shows.bind_left (waitForMinMasterNodes_shows i hctx n)

theorem waitForControlPlane_shows_bootkube (n : Nat) :
    Prog.Shows (fun _ => BootkubeDone) (waitForControlPlane i ctx n) := Prog.Shows.bind_right fun _ => Prog.Shows.bind_right fun _ => Prog.Shows.bind_right fun _ =>
    Prog.Shows.bind_right fun _ => Prog.Shows.bind_right fun _ => Prog.Shows.bind_right fun _ =>
    Prog.Shows.bind_left (waitForBootkube_shows i hctx n)

end AssistedInstaller
