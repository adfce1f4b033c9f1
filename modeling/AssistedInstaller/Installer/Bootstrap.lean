import AssistedInstaller.Installer.Basic

/-
  AssistedInstaller.Installer.Bootstrap — the bootstrap flow (`startBootstrap` and the
  steps it runs), `waitForBootkube`, and the single-node ignition
  (`createSingleNodeMasterIgnition`, `updateSingleNodeIgnition`), with the ignition
  downloads they share with `InstallNode`.

  `startBootstrap` makes only calls that neither end the node nor report its stage
  (`startBootstrap_kinds`). `waitForBootkube` polls `stat` on the bootkube marker
  until it succeeds or its context is cancelled:
  - `waitForBootkube_shows`: under a context that is never cancelled, the wait returns
    only after a `stat` of the marker that returned nil, and never through `ctx.Done`.
  - `createSingleNodeMasterIgnition_returns`: it returns the single-node ignition path
    only after the `stat` of that file returned nil, and, outside dry run, after the
    merged ignition was written there.
-/

namespace AssistedInstaller

/-- `errors.Wrap(err, message)` and `errors.Wrapf` of `pkg/errors`: `"message: err"`. -/
def wrapError (message : String) (err : GoError) : GoError := ⟨message ++ ": " ++ err.msg⟩

/-- `installer.getFileFromService`: the destination, or the download's error. -/
def getFileFromService (filename : String) : Go String := do
  let env ← Prog.read
  let dest := env.filepathJoin installDir filename
  InventoryClient.downloadFile filename dest
  pure dest

/-- `installer.downloadHostIgnition`: `<role>-<hostID>.ign` under the install dir. -/
def downloadHostIgnition (i : Config) : Go String := do
  let env ← Prog.read
  let filename := i.role ++ "-" ++ i.hostID ++ ".ign"
  let dest := env.filepathJoin installDir filename
  InventoryClient.downloadHostIgnition i.infraEnvID i.hostID dest
  pure dest

/-- The `podman run` of the machine-config-daemon that `extractIgnitionToFS` retries. -/
def mcdArgs (mcoImage ignitionPath : String) : List String :=
  ["run", "--net", "host", "--pid=host", "--volume", "/:/rootfs:rw", "--volume",
    "/usr/bin/rpm-ostree:/usr/bin/rpm-ostree", "--privileged", "--entrypoint",
    "/usr/bin/machine-config-daemon", mcoImage, "start", "--node-name", "localhost",
    "--root-mount", "/rootfs", "--once-from", ignitionPath, "--skip-reboot"]

/-- `installer.extractIgnitionToFS`: up to `extractRetryCount` runs, the last error returned. -/
def extractIgnitionToFS (i : Config) (ignitionPath : String) : Go Unit :=
  if i.dryRunEnabled then pure () else loop extractRetryCount none
where
  loop : Nat → Option GoError → Go Unit
    | 0, err => match err with
      | some e => Prog.throw e
      | none => pure ()
    | n + 1, _ => do
      match ← Prog.attempt (Ops.execPrivilegeCommand "podman" (mcdArgs i.mcoImage ignitionPath)) with
      | .ok _ => pure ()
      | .error e => loop n (some e)

/-- `installer.generateSshKeyPair`. -/
def generateSshKeyPair (i : Config) : Go Unit :=
  if i.dryRunEnabled then pure () else do
    let env ← Prog.read
    let _ ← Ops.execPrivilegeCommand "ssh-keygen" ["-q", "-f", env.sshKeyPath, "-N", ""]

/-- `installer.checkLocalhostName`. -/
def checkLocalhostName (i : Config) : Go Unit :=
  if i.dryRunEnabled then pure () else do
    let hostname ← Ops.getHostname
    if hostname ≠ "localhost" then pure () else do
      let uuid ← newUUID
      Ops.createRandomHostname ("random-hostname-" ++ uuid)

/-- `installer.startBootstrap`. -/
def startBootstrap (i : Config) : Go Unit := do
  let env ← Prog.read
  Ops.mkdir env.sshDir
  let ignitionPath ← getFileFromService "bootstrap.ign"
  Ops.extractFromIgnition ignitionPath dockerConfigFile
  extractIgnitionToFS i ignitionPath
  if i.highAvailabilityMode ≠ clusterHighAvailabilityModeNone then
    generateSshKeyPair i
    Ops.createOpenshiftSshManifest env.assistedInstallerSshManifest env.sshManifestTmpl env.sshPubKeyPath
  Ops.systemctlAction ["daemon-reload"]
  checkLocalhostName i
  Ops.systemctlAction ["restart", "NetworkManager.service"]
  Ops.prepareController
  ["bootkube.service", "approve-csr.service", "progress.service"].forM fun service =>
    Ops.systemctlAction ["start", service]

/-- `installer.waitForBootkube`: every tick, `stat` the marker bootkube leaves when done. -/
def waitForBootkube (i : Config) (ctx : Context) (fuel : Nat) : Go Unit := do
  updateHostInstallProgress i .waitingForBootkube ""
  Prog.loop (fun () => tick ctx) fuel ()
where
  /-- One turn of the `for`-`select`. -/
  tick (ctx : Context) : Go (Unit ⊕ Unit) :=
    if ctx.done then do
      Prog.emit .ctxDone
      pure (.inr ())
    else do
      match ← Prog.attempt (Ops.execPrivilegeCommand "stat" [bootkubeDoneMarker]) with
      | .ok _ =>
        Prog.discard (Ops.execPrivilegeCommand "systemctl" ["status", "bootkube.service"])
        pure (.inr ())
      | .error _ => pure (.inl ())

/-- `installer.updateSingleNodeIgnition`: the host's ignition, its nested `Ignition.Config`
emptied, merged over the single-node one. -/
def updateSingleNodeIgnition (i : Config) (singleNodeIgnitionPath : String) : Go Unit :=
  if i.dryRunEnabled then pure () else do
    let hostIgnitionPath ← downloadHostIgnition i
    let singleNodeconfig ← IgnitionAPI.parseIgnitionFile singleNodeIgnitionPath
    let hostConfig ← IgnitionAPI.parseIgnitionFile hostIgnitionPath
    let hostConfig := { hostConfig with config := emptyIgnitionConfig }
    match ← Prog.attempt (IgnitionAPI.mergeIgnitionConfig singleNodeconfig hostConfig) with
    | .error mergeErr => Prog.throw (wrapError "failed to apply host ignition config overrides" mergeErr)
    | .ok merged => IgnitionAPI.writeIgnitionFile singleNodeIgnitionPath merged

/-- `installer.createSingleNodeMasterIgnition`, with the receiver's config after it set the
role to master. -/
def createSingleNodeMasterIgnition (i : Config) (fuel : Nat) : Go (Config × String) := do
  startBootstrap i
  waitForBootkube i Context.background fuel
  let _ ← Ops.execPrivilegeCommand "stat" [singleNodeMasterIgnitionPath]
  let i := { i with role := hostRoleMaster }
  updateSingleNodeIgnition i singleNodeMasterIgnitionPath
  pure (i, singleNodeMasterIgnitionPath)

/-! ## Which calls -/

section
variable (i : Config)

theorem extractIgnitionToFS_kinds (path : String) : Kinds [.other] (extractIgnitionToFS i path) := by
  have hloop : ∀ n err, Kinds [.other] (extractIgnitionToFS.loop i path n err) := by
    intro n
    induction n with
    | zero => intro err; cases err <;> first | exact Prog.Emits.throw _ | exact Prog.Emits.pure _
    | succ n ih =>
      intro _
      refine (kinds_callText (kind_mem_other (by rfl))).attempt.bind fun r => ?_
      cases r
      exacts [ih _, Prog.Emits.pure _]
  unfold extractIgnitionToFS
  split
  exacts [Prog.Emits.pure _, hloop _ _]

theorem downloadHostIgnition_kinds : Kinds [.other] (downloadHostIgnition i) :=
  Prog.Emits.read.bind fun _ => (kinds_callUnit (kind_mem_other (by rfl))).bind fun _ => Prog.Emits.pure _

theorem startBootstrap_kinds : Kinds [.other] (startBootstrap i) := by
  have hrest : Kinds [.other] (do
      Ops.systemctlAction ["daemon-reload"]
      checkLocalhostName i
      Ops.systemctlAction ["restart", "NetworkManager.service"]
      Ops.prepareController
      ["bootkube.service", "approve-csr.service", "progress.service"].forM fun service =>
        Ops.systemctlAction ["start", service]) := by
    refine (kinds_callUnit (kind_mem_other (by rfl))).bind fun _ => Prog.Emits.bind ?_ fun _ =>
      (kinds_callUnit (kind_mem_other (by rfl))).bind fun _ => (kinds_callUnit (kind_mem_other (by rfl))).bind
      fun _ => ?_
    · unfold checkLocalhostName
      split
      · exact Prog.Emits.pure _
      · exact (kinds_callText (kind_mem_other (by rfl))).bind fun _ => Prog.Emits.ite (Prog.Emits.pure _)
          ((kinds_callValue (kind_mem_other (by rfl))).bind fun _ => kinds_callUnit (kind_mem_other (by rfl)))
    · simp only [List.forM_cons', List.forM_nil']
      exact (kinds_callUnit (kind_mem_other (by rfl))).bind fun _ =>
        (kinds_callUnit (kind_mem_other (by rfl))).bind fun _ =>
        (kinds_callUnit (kind_mem_other (by rfl))).bind fun _ => Prog.Emits.pure _
  have hssh : Kinds [.other] (generateSshKeyPair i) := by
    unfold generateSshKeyPair
    split
    · exact Prog.Emits.pure _
    · exact Prog.Emits.read.bind fun _ => (kinds_callText (kind_mem_other (by rfl))).bind fun _ => Prog.Emits.pure _
  unfold startBootstrap
  exact Prog.Emits.read.bind fun _ => (kinds_callUnit (kind_mem_other (by rfl))).bind fun _ =>
    (Prog.Emits.read.bind fun _ => (kinds_callUnit (kind_mem_other (by rfl))).bind fun _ => Prog.Emits.pure _).bind
    fun p => (kinds_callUnit (kind_mem_other (by rfl))).bind fun _ => (extractIgnitionToFS_kinds i p).bind fun _ =>
    Prog.Emits.ite (hssh.bind fun _ => (kinds_callUnit (kind_mem_other (by rfl))).bind fun _ => hrest)
      ((Prog.Emits.pure _).bind fun _ => hrest)

theorem updateSingleNodeIgnition_kinds (path : String) : Kinds [.other] (updateSingleNodeIgnition i path) := by
  unfold updateSingleNodeIgnition
  split
  · exact Prog.Emits.pure _
  refine (downloadHostIgnition_kinds i).bind fun _ => (kinds_callIgnition (kind_mem_other (by rfl))).bind fun _ =>
    (kinds_callIgnition (kind_mem_other (by rfl))).bind fun _ =>
    (kinds_callIgnition (kind_mem_other (by rfl))).attempt.bind fun r => ?_
  cases r
  exacts [Prog.Emits.throw _, kinds_callUnit (kind_mem_other rfl)]

/-- `startBootstrap` returns only after its last call, starting `progress.service`, answered nil. -/
theorem startBootstrap_shows :
    Prog.Shows (fun _ x => x = .call (.systemctlAction ["start", "progress.service"]) (.unit (.ok ())))
      (startBootstrap i) := by
  have hrest : Prog.Shows (fun _ x => x = .call (.systemctlAction ["start", "progress.service"]) (.unit (.ok ())))
      (do
        Ops.systemctlAction ["daemon-reload"]
        checkLocalhostName i
        Ops.systemctlAction ["restart", "NetworkManager.service"]
        Ops.prepareController
        ["bootkube.service", "approve-csr.service", "progress.service"].forM fun service =>
          Ops.systemctlAction ["start", service]) := by
    simp only [List.forM_cons', List.forM_nil']
    exact Prog.Shows.bind_right fun _ => Prog.Shows.bind_right fun _ => Prog.Shows.bind_right fun _ =>
      Prog.Shows.bind_right fun _ => Prog.Shows.bind_right fun _ => Prog.Shows.bind_right fun _ =>
      Prog.Shows.bind_left (Prog.Shows.query fun _ _ => rfl)
  unfold startBootstrap
  exact Prog.Shows.bind_right fun _ => Prog.Shows.bind_right fun _ => Prog.Shows.bind_right fun _ =>
    Prog.Shows.bind_right fun _ => Prog.Shows.bind_right fun _ => Prog.Shows.ite
      (fun _ => Prog.Shows.bind_right fun _ => Prog.Shows.bind_right fun _ => hrest)
      fun _ => Prog.Shows.bind_right fun _ => hrest

/-! ## Waiting for bootkube -/

/-- A `stat` of bootkube's done marker that returned nil. -/
def BootkubeDone (x : Event) : Prop :=
  ∃ out, x = .call (.execPrivilegeCommand "stat" [bootkubeDoneMarker]) (.text (.ok out))

variable {ctx : Context} (hctx : ctx.done = false)
include hctx

theorem waitForBootkube_tick_kinds : Kinds [.other] (waitForBootkube.tick ctx) := by
  simp only [waitForBootkube.tick, hctx, Bool.false_eq_true, if_false]
  refine (kinds_callText (kind_mem_other (by rfl))).attempt.bind fun r => ?_
  cases r
  · exact Prog.Emits.pure _
  · exact (kinds_callText (kind_mem_other (by rfl))).discard.bind fun _ => Prog.Emits.pure _

theorem waitForBootkube_kinds (n : Nat) :
    Kinds [.progress .waitingForBootkube, .other] (waitForBootkube i ctx n) :=
  ((updateHostInstallProgress_kinds i _ _).mono (by simp)).bind fun _ =>
    Prog.Emits.loop (fun _ => (waitForBootkube_tick_kinds hctx).mono (by simp)) n ()

theorem waitForBootkube_shows (n : Nat) : Prog.Shows (fun _ => BootkubeDone) (waitForBootkube i ctx n) := by
  refine Prog.Shows.bind_right fun _ => Prog.Shows.loop (fun _ env h b hb => ?_) n ()
  simp only [waitForBootkube.tick, hctx, Bool.false_eq_true, if_false, Ops.execPrivilegeCommand, callText,
    Prog.attempt_query_bind_run] at hb ⊢
  cases hs : env.text h (.execPrivilegeCommand "stat" [bootkubeDoneMarker]) <;> simp [hs] at hb ⊢
  exact .inl ⟨_, rfl⟩

theorem waitForBootkube_reports (hi : i.hostID ≠ "") (n : Nat) :
    Reports [.waitingForBootkube] (waitForBootkube i ctx n) :=
  (updateHostInstallProgress_reports i _ _ hi).bind fun _ =>
    reports_of_kinds (Prog.Emits.loop (fun _ => waitForBootkube_tick_kinds hctx) n ())

end

/-! ## The single-node ignition -/

section
variable (i : Config)

theorem createSingleNodeMasterIgnition_kinds (n : Nat) :
    Kinds [.progress .waitingForBootkube, .other] (createSingleNodeMasterIgnition i n) := by
  refine Prog.Emits.bind ((startBootstrap_kinds i).mono (by simp)) fun _ =>
    Prog.Emits.bind (waitForBootkube_kinds i rfl n) fun _ => Prog.Emits.bind ?_ fun _ =>
    Prog.Emits.bind ((updateSingleNodeIgnition_kinds _ _).mono (by simp)) fun _ => Prog.Emits.pure _
  exact kinds_callText (by simp [Call.kind])

theorem createSingleNodeMasterIgnition_reports (hi : i.hostID ≠ "") (n : Nat) :
    Reports [.waitingForBootkube] (createSingleNodeMasterIgnition i n) :=
  (reports_of_kinds (startBootstrap_kinds i)).bind fun _ => (waitForBootkube_reports i rfl hi n).bind
    fun _ => (reports_of_kinds (kinds_callText (kind_mem_other (by rfl)))).bind fun _ =>
    (reports_of_kinds (updateSingleNodeIgnition_kinds _ _)).bind fun _ => Prog.Reports.of_emits (Prog.Emits.pure _)

/-- The merged single-node ignition was written back. -/
def SingleNodeIgnitionWritten (x : Event) : Prop :=
  ∃ merged, x = .call (.writeIgnitionFile singleNodeMasterIgnitionPath merged) (.unit (.ok ()))

theorem updateSingleNodeIgnition_shows (hdry : i.dryRunEnabled = false) :
    Prog.Shows (fun _ => SingleNodeIgnitionWritten) (updateSingleNodeIgnition i singleNodeMasterIgnitionPath) := by
  simp only [updateSingleNodeIgnition, hdry, Bool.false_eq_true, if_false]
  refine Prog.Shows.bind_right fun _ => Prog.Shows.bind_right fun _ => Prog.Shows.bind_right fun _ =>
    Prog.Shows.bind_right fun r => ?_
  split
  · exact Prog.Shows.throw _
  · exact Prog.Shows.query fun _ _ => ⟨_, rfl⟩

/-- A `stat` of the single-node ignition that returned nil. -/
def SingleNodeIgnitionFound (x : Event) : Prop :=
  ∃ out, x = .call (.execPrivilegeCommand "stat" [singleNodeMasterIgnitionPath]) (.text (.ok out))

theorem createSingleNodeMasterIgnition_found (n : Nat) :
    Prog.Shows (fun _ => SingleNodeIgnitionFound) (createSingleNodeMasterIgnition i n) :=
  Prog.Shows.bind_right fun _ => Prog.Shows.bind_right fun _ =>
    Prog.Shows.bind_left (Prog.Shows.query fun _ _ => ⟨_, rfl⟩)

theorem createSingleNodeMasterIgnition_written (hdry : i.dryRunEnabled = false) (n : Nat) :
    Prog.Shows (fun _ => SingleNodeIgnitionWritten) (createSingleNodeMasterIgnition i n) :=
  Prog.Shows.bind_right fun _ => Prog.Shows.bind_right fun _ => Prog.Shows.bind_right fun _ =>
    Prog.Shows.bind_left (updateSingleNodeIgnition_shows { i with role := hostRoleMaster } hdry)

theorem createSingleNodeMasterIgnition_returns (n : Nat) :
    Prog.Returns (fun a t => a = ({ i with role := hostRoleMaster }, singleNodeMasterIgnitionPath) ∧
      (∃ x ∈ t, SingleNodeIgnitionFound x) ∧
      (i.dryRunEnabled = true ∨ ∃ x ∈ t, SingleNodeIgnitionWritten x))
      (createSingleNodeMasterIgnition i n) := by
  have hv : Prog.Returns (fun a _ => a = ({ i with role := hostRoleMaster }, singleNodeMasterIgnitionPath))
      (createSingleNodeMasterIgnition i n) :=
    Prog.Returns.bind_value fun _ => Prog.Returns.bind_value fun _ => Prog.Returns.bind_value fun _ =>
      Prog.Returns.bind_value fun _ => (Prog.Returns.pure _).mono fun _ _ h => h.1
  refine Prog.Returns.and hv (Prog.Returns.and (createSingleNodeMasterIgnition_found i n).returns ?_)
  cases hdry : i.dryRunEnabled
  · exact (createSingleNodeMasterIgnition_written i hdry n).returns.mono fun _ _ h => .inr h
  · exact Prog.Returns.any.mono fun _ _ _ => .inl rfl

end

end AssistedInstaller
