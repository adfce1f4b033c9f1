import AssistedInstaller.Installer.NodeEnd

/-
  AssistedInstaller.Installer.Roles — what `InstallNode` does by the host's role and the
  cluster's mode, over every run.

  The ignition step and the branch after the image write are the only places where
  `InstallNode` reads the role and `HighAvailabilityMode`: a single node runs the bootstrap
  flow itself in `createSingleNodeMasterIgnition` and installs `master.ign`; elsewhere the
  host downloads the ignition of its role (the bootstrap's role being already rewritten to
  master) and only the bootstrap host takes the control-plane branch.

  Proved:
  - `installNode_nonBootstrap_kinds`: outside single node, a host other than the bootstrap
    never waits for master nodes (no `ListMasterNodes` or `GetEnabledHostsNamesHosts`
    call), the control plane or a bootstrap goroutine and never patches: a master makes
    no wait at all, a worker only its wait for two ready masters.
  - `installNode_singleNode`: on a single node the node-terminating call comes after the
    host ran the bootstrap flow itself to its end, found bootkube's marker and
    `master.ign`, merged it (outside dry run) and wrote the image from it; the run makes
    no wait for masters (no `ListMasterNodes` or `GetEnabledHostsNamesHosts` call) or the
    control plane, no patch and no timeout.
  - `installNode_writesFrom`: every image write is from the ignition of the host's role
    (`hostIgnitionPath`): `master.ign` on a single node, else the downloaded
    `<role>-<hostID>.ign`, the master's on the bootstrap host.
-/

namespace AssistedInstaller

/-! ## What only the bootstrap host does -/

/-- The kinds of event a master outside single node makes before `finalize`: no wait at all, and
neither of the master wait's polls (`ListMasterNodes`, `GetEnabledHostsNamesHosts`). -/
def masterKinds : List Kind :=
  [.other, .write, .setBootOrder, .uploadLogs, .progress .startingInstallation, .progress .installing,
    .progress .writingImageToDisk]

/-- A worker's: a master's, and its wait for two ready masters. -/
def workerKinds : List Kind := masterKinds ++ [.progress .waitingForControlPlane, .timedOut]

/-- Outside single node and the bootstrap host, the ignition step downloads the host's ignition
and goes on with the config it was given. -/
theorem ignitionPath_nonBootstrap (i : Config) (fuel : Nat)
    (hn : i.highAvailabilityMode ≠ clusterHighAvailabilityModeNone) :
    Prog.Returns (fun (a : Config × String) _ => a.1 = i)
      (if i.highAvailabilityMode = clusterHighAvailabilityModeNone then createSingleNodeMasterIgnition i fuel
        else do
          let ignitionPath ← downloadHostIgnition i
          pure (i, ignitionPath)) :=
  Prog.Returns.ite (fun h => absurd h hn) fun _ =>
    (Prog.Returns.any.bind fun _ => Prog.Returns.pure _).mono fun _ _ ⟨_, _, _, _, _, ha, _⟩ => by rw [ha]

theorem installNodeSteps_kinds_nonBootstrap (i : Config) (fuel : Nat)
    (hn : i.highAvailabilityMode ≠ clusterHighAvailabilityModeNone) (hb : i.role ≠ hostRoleBootstrap) :
    Kinds (if i.role = hostRoleWorker then workerKinds else masterKinds) (installNodeSteps i fuel) := by
  have hm : masterKinds ⊆ if i.role = hostRoleWorker then workerKinds else masterKinds := by split <;> decide
  have hp : ∀ i' st info, .progress st ∈ masterKinds →
      Kinds (if i.role = hostRoleWorker then workerKinds else masterKinds) (updateHostInstallProgress i' st info) :=
    fun i' st info h => Kinds.widen _ (updateHostInstallProgress_kinds i' st info) (List.cons_subset.mpr ⟨hm h, by simp⟩)
  have hc : ∀ c : Call, c.kind = .other → c.kind ∈ if i.role = hostRoleWorker then workerKinds else masterKinds :=
    fun c h => hm (h ▸ by decide)
  have hnb : ¬(i.role = hostRoleBootstrap ∧ i.highAvailabilityMode ≠ clusterHighAvailabilityModeNone) :=
    fun h => hb h.1
  refine (hp _ _ _ (by decide)).bind fun _ => (kinds_callValue (hc _ (by rfl))).bind fun dev => ?_
  refine (Kinds.widen _ (cleanupInstallDevice_kinds _) fun _ hk => hm ((by decide : [Kind.other] ⊆ masterKinds) hk)).bind fun _ =>
    (kinds_callUnit (hc _ (by rfl))).bind fun _ =>
    (Prog.Emits.ite (startBootstrapGoroutines_emits _ _ _) (Prog.Emits.pure _)).bind fun g => ?_
  refine (hp _ _ _ (by decide)).bind fun _ => Prog.Emits.bind_of_returns
    (Prog.Emits.ite_of (fun h => absurd h hn)
      fun _ => (Kinds.widen _ (downloadHostIgnition_kinds _) fun _ hk => hm ((by decide : [Kind.other] ⊆ masterKinds) hk)).bind
        fun _ => Prog.Emits.pure _)
    (ignitionPath_nonBootstrap _ fuel hn) fun x hx => ?_
  rcases x with ⟨i', path⟩
  obtain rfl := hx
  exact (Kinds.widen _ (writeImageToDisk_kinds _ _) fun _ hk => hm ((by decide :
    [.progress .writingImageToDisk, .write] ⊆ masterKinds) hk)).bind fun _ =>
    (kinds_callUnit (hm (kind_mem .setBootOrder (by rfl) (by decide)))).discard.bind fun _ =>
    (Prog.Emits.ite_of (fun h => absurd h hnb) fun _ => Prog.Emits.ite_of
      (fun hw => Kinds.widen _ (workerWaitFor2ReadyMasters_kinds _ _) (by
        simp only [show i.role = hostRoleWorker by simpa [hb] using hw, if_true]; decide))
      fun _ => Prog.Emits.pure _).bind fun _ =>
    (kinds_notify (hc _ (by rfl))).bind fun _ =>
    (kinds_callText (hm (kind_mem .uploadLogs (by rfl) (by decide)))).discard.bind fun _ => Prog.Emits.pure _

/-- Outside single node, only the bootstrap host waits for master nodes, for the control plane or
for its bootstrap goroutine, or patches etcd or the control-plane replicas: a master makes no
wait at all before its node-terminating call, and a worker only its wait for two ready masters. -/
theorem installNode_nonBootstrap_kinds (i : Config) (fuel : Nat)
    (hn : i.highAvailabilityMode ≠ clusterHighAvailabilityModeNone) (hb : i.role ≠ hostRoleBootstrap) :
    Kinds ((if i.role = hostRoleWorker then workerKinds else masterKinds) ++ finalizeKinds) (installNode i fuel) :=
  (Kinds.widen _ (installNodeSteps_kinds_nonBootstrap i fuel hn hb) (List.subset_append_left _ _)).bind fun c =>
    Kinds.widen _ (finalize_kinds c) (List.subset_append_right _ _)

theorem workerConfig_installNode_kinds :
    workerConfig.highAvailabilityMode ≠ clusterHighAvailabilityModeNone ∧ workerConfig.role ≠ hostRoleBootstrap ∧
      Kinds ((if workerConfig.role = hostRoleWorker then workerKinds else masterKinds) ++ finalizeKinds)
        (installNode workerConfig 2) :=
  ⟨by decide, by decide, installNode_nonBootstrap_kinds workerConfig 2 (by decide) (by decide)⟩

/-! ## The single node -/

section
variable (i : Config) (fuel : Nat) (hn : i.highAvailabilityMode = clusterHighAvailabilityModeNone)
include hn

/-- On a single node the ignition step is `createSingleNodeMasterIgnition`, which goes on as a
master with `master.ign`. -/
theorem ignitionPath_singleNode :
    Prog.Returns (fun (a : Config × String) _ => a.1 = { i with role := hostRoleMaster } ∧
        a.2 = singleNodeMasterIgnitionPath)
      (if i.highAvailabilityMode = clusterHighAvailabilityModeNone then createSingleNodeMasterIgnition i fuel
        else do
          let ignitionPath ← downloadHostIgnition i
          pure (i, ignitionPath)) :=
  Prog.Returns.ite (fun _ => (createSingleNodeMasterIgnition_returns i fuel).mono fun _ _ ⟨ha, _⟩ =>
    ⟨by rw [ha], by rw [ha]⟩) fun h => absurd hn h

/-- On a single node `InstallNode` returns from its steps only through
`createSingleNodeMasterIgnition`. -/
theorem installNodeSteps_shows_singleNode {Q : Env → Event → Prop}
    (hQ : ∀ i', i'.dryRunEnabled = i.dryRunEnabled → Prog.Shows Q (createSingleNodeMasterIgnition i' fuel)) :
    Prog.Shows Q (installNodeSteps i fuel) :=
  Prog.Shows.bind_right fun _ => Prog.Shows.bind_right fun _ => Prog.Shows.bind_right fun _ =>
    Prog.Shows.bind_right fun _ => Prog.Shows.bind_right fun _ => Prog.Shows.bind_right fun _ =>
    Prog.Shows.bind_left (Prog.Shows.ite (fun _ => hQ _ rfl) fun h => absurd hn h)

/-- On a single node the image is written from `master.ign`. -/
theorem installNodeSteps_writes_singleNode :
    Prog.Shows (fun _ x => ∃ dev,
        x = .call (.writeImageToDisk singleNodeMasterIgnitionPath dev i.installerArgs) (.unit (.ok ())))
      (installNodeSteps i fuel) := by
  refine Prog.Shows.bind_right fun _ => Prog.Shows.bind_right fun _ => Prog.Shows.bind_right fun _ =>
    Prog.Shows.bind_right fun _ => Prog.Shows.bind_right fun _ => Prog.Shows.bind_right fun _ =>
    Prog.Shows.bind_of_returns (ignitionPath_singleNode _ fuel hn) fun x hx => ?_
  rcases x with ⟨i', path⟩
  obtain ⟨rfl, rfl⟩ := hx
  exact Prog.Shows.bind_left fun env h _ ho => ⟨_, writeImageToDisk_returns _ _ env h _ ho, _, rfl⟩

/-- The kinds of event a single-node host makes before `finalize`: no wait for masters, for the
control plane or for a bootstrap goroutine, no patch, no timeout. -/
def singleNodeKinds : List Kind :=
  [.other, .write, .setBootOrder, .uploadLogs, .progress .startingInstallation, .progress .installing,
    .progress .writingImageToDisk, .progress .waitingForBootkube]

theorem installNodeSteps_kinds_singleNode : Kinds singleNodeKinds (installNodeSteps i fuel) := by
  have hp : ∀ i st info, .progress st ∈ singleNodeKinds → Kinds singleNodeKinds (updateHostInstallProgress i st info) :=
    fun i st info h => Kinds.widen _ (updateHostInstallProgress_kinds i st info) (List.cons_subset.mpr ⟨h, by simp⟩)
  have hc : ∀ c : Call, c.kind = .other → c.kind ∈ singleNodeKinds := fun c h => h ▸ by decide
  refine (hp _ _ _ (by decide)).bind fun _ => (kinds_callValue (hc _ (by rfl))).bind fun dev => ?_
  refine (Kinds.widen _ (cleanupInstallDevice_kinds _) (by decide)).bind fun _ =>
    (kinds_callUnit (hc _ (by rfl))).bind fun _ =>
    (Prog.Emits.ite (startBootstrapGoroutines_emits _ _ _) (Prog.Emits.pure _)).bind fun g => ?_
  refine (hp _ _ _ (by decide)).bind fun _ => Prog.Emits.bind_of_returns
    (Prog.Emits.ite (Kinds.widen _ (createSingleNodeMasterIgnition_kinds _ _) (by decide))
      ((Kinds.widen _ (downloadHostIgnition_kinds _) (by decide)).bind fun _ => Prog.Emits.pure _))
    (ignitionPath_singleNode _ fuel hn) fun x hx => ?_
  rcases x with ⟨i', path⟩
  obtain ⟨rfl, rfl⟩ := hx
  exact (Kinds.widen _ (writeImageToDisk_kinds _ _) (by decide)).bind fun _ =>
    (kinds_callUnit (kind_mem .setBootOrder (by rfl) (by decide))).discard.bind fun _ =>
    (Prog.Emits.ite_of (fun hb => absurd hn hb.2) fun _ => Prog.Emits.ite_of (fun hw => absurd (hw : hostRoleMaster = hostRoleWorker) (by decide))
      fun _ => Prog.Emits.pure _).bind fun _ =>
    (kinds_notify (hc _ (by rfl))).bind fun _ =>
    (kinds_callText (kind_mem .uploadLogs (by rfl) (by decide))).discard.bind fun _ => Prog.Emits.pure _

end

/-- What the single-node host has done before its node-terminating call: it ran the bootstrap
flow itself to its end (starting `progress.service` answered nil), found bootkube's marker and
`master.ign`, outside dry run merged and wrote `master.ign` back, and wrote the image from it. -/
def SingleNodeReady (i : Config) (t : List Event) : Prop :=
  Event.call (.systemctlAction ["start", "progress.service"]) (.unit (.ok ())) ∈ t ∧
    (∃ x ∈ t, BootkubeDone x) ∧ (∃ x ∈ t, SingleNodeIgnitionFound x) ∧
    (i.dryRunEnabled = true ∨ ∃ x ∈ t, SingleNodeIgnitionWritten x) ∧
    ∃ dev, Event.call (.writeImageToDisk singleNodeMasterIgnitionPath dev i.installerArgs) (.unit (.ok ())) ∈ t

theorem SingleNodeReady.append {i : Config} {t : List Event} (h : SingleNodeReady i t) (t' : List Event) :
    SingleNodeReady i (t ++ t') := by
  obtain ⟨hs, ⟨x₁, hx₁, h₁⟩, ⟨x₂, hx₂, h₂⟩, hw, dev, hd⟩ := h
  refine ⟨List.mem_append_left _ hs, ⟨x₁, List.mem_append_left _ hx₁, h₁⟩, ⟨x₂, List.mem_append_left _ hx₂, h₂⟩,
    hw.imp_right fun ⟨x, hx, h⟩ => ⟨x, List.mem_append_left _ hx, h⟩, dev, List.mem_append_left _ hd⟩

/-- A single-node host (`HighAvailabilityMode` `None`) reboots only as its own bootstrap: after
running the bootstrap flow to its end, waiting for bootkube, finding `master.ign`, merging it
(outside dry run) and writing the image from it. It never waits for masters, the control plane
or a bootstrap goroutine, never patches etcd or the control-plane replicas and never times out. -/
theorem installNode_singleNode (i : Config) (hn : i.highAvailabilityMode = clusterHighAvailabilityModeNone)
    (fuel : Nat) (env : Env) (h : List Event) :
    Guarded (SingleNodeReady i) (installNode i fuel env h).2 ∧
      ∀ x ∈ (installNode i fuel env h).2, x.kind ∈ singleNodeKinds ++ finalizeKinds := by
  have h₁ := installNodeSteps_shows_singleNode i fuel hn fun i' _ => Prog.Shows.bind_left (startBootstrap_shows i')
  have h₂ := installNodeSteps_shows_singleNode i fuel hn fun i' _ =>
    Prog.Shows.bind_right fun _ => Prog.Shows.bind_left (waitForBootkube_shows i' rfl fuel)
  have h₃ := installNodeSteps_shows_singleNode i fuel hn fun i' _ => createSingleNodeMasterIgnition_found i' fuel
  have h₄ : i.dryRunEnabled = true ∨ Prog.Shows (fun _ => SingleNodeIgnitionWritten) (installNodeSteps i fuel) := by
    cases hdry : i.dryRunEnabled
    · exact .inr (installNodeSteps_shows_singleNode i fuel hn fun i' hd =>
        createSingleNodeMasterIgnition_written i' (hd.trans hdry) fuel)
    · exact .inl rfl
  refine ⟨installNode_guarded (fun _ t' h => h.append t') i fuel env h fun c hc => ?_,
    ((Kinds.widen _ (installNodeSteps_kinds_singleNode i fuel hn) (List.subset_append_left _ _)).bind fun c =>
      Kinds.widen _ (finalize_kinds c) (List.subset_append_right _ _)) env h⟩
  obtain ⟨_, hs, rfl⟩ := h₁ env h c hc
  obtain ⟨_, hw, dev, rfl⟩ := installNodeSteps_writes_singleNode i fuel hn env h c hc
  exact ⟨hs, h₂ env h c hc, h₃ env h c hc, h₄.imp_right fun h₄ => h₄ env h c hc, dev, hw⟩

/-- The bootstrap host's config in single-node mode. -/
def singleNodeConfig : Config := { bootstrapConfig with highAvailabilityMode := clusterHighAvailabilityModeNone }

theorem singleNodeConfig_installNode :
    singleNodeConfig.highAvailabilityMode = clusterHighAvailabilityModeNone ∧
      Guarded (SingleNodeReady singleNodeConfig) (installNode singleNodeConfig 2 twoMastersEnv []).2 ∧
      ∀ x ∈ (installNode singleNodeConfig 2 twoMastersEnv []).2, x.kind ∈ singleNodeKinds ++ finalizeKinds :=
  ⟨rfl, installNode_singleNode singleNodeConfig rfl 2 twoMastersEnv []⟩

/-! ## The ignition the image is written from -/

/-- The ignition file `InstallNode` on config `i` installs from against `env`: `master.ign` on a
single node, else the one downloaded for the host's role, the master's for the bootstrap host. -/
def hostIgnitionPath (env : Env) (i : Config) : String :=
  if i.highAvailabilityMode = clusterHighAvailabilityModeNone then singleNodeMasterIgnitionPath
  else env.filepathJoin installDir
    ((if i.role = hostRoleBootstrap then hostRoleMaster else i.role) ++ "-" ++ i.hostID ++ ".ign")

/-- An image write, if `x` is one, is from `path`. -/
def WritesFrom (path : String) (x : Event) : Prop :=
  ∀ path' dev args r, x = .call (.writeImageToDisk path' dev args) r → path' = path

/-- Every image write of the trace `t` is from `path`. -/
def WritesOnlyFrom (path : String) (t : List Event) : Prop := ∀ x ∈ t, WritesFrom path x

theorem writesFrom_of_kind {path : String} {x : Event} (hx : x.kind ≠ .write) : WritesFrom path x :=
  fun _ _ _ _ h => absurd (h ▸ rfl) hx

theorem writeImageToDisk_writesFrom (i : Config) (path : String) :
    Prog.Emits (WritesFrom path) (writeImageToDisk i path) := by
  unfold writeImageToDisk Ops.writeImageToDisk callUnit
  refine (Prog.Emits.mono (updateHostInstallProgress_kinds i _ _) fun x hx => writesFrom_of_kind fun h =>
    by simp [h] at hx).bind fun _ => (retry_emits 3 ((Prog.Emits.query fun _ => ?_).attempt.bind fun r => ?_)).bind
    fun err => ?_
  · exact fun _ _ _ _ h => by cases h; rfl
  · cases r <;> exact Prog.Emits.pure _
  · cases err
    exacts [Prog.Emits.pure _, Prog.Emits.throw _]

theorem downloadHostIgnition_path (i : Config) (env : Env) (h : List Event) (p : String)
    (hp : (downloadHostIgnition i env h).1 = .ok p) :
    p = env.filepathJoin installDir (i.role ++ "-" ++ i.hostID ++ ".ign") := by
  simp only [downloadHostIgnition, Prog.read_bind_run, InventoryClient.downloadHostIgnition, callUnit,
    Prog.query_bind_run] at hp
  split at hp
  · simpa using hp.symm
  · cases hp

/-- The file the ignition step of `InstallNode` returns. -/
theorem ignitionPath_path (i : Config) (fuel : Nat) (env : Env) (h : List Event) (a : Config × String)
    (ha : ((if i.highAvailabilityMode = clusterHighAvailabilityModeNone then createSingleNodeMasterIgnition i fuel
        else do
          let ignitionPath ← downloadHostIgnition i
          pure (i, ignitionPath)) env h).1 = .ok a) :
    a.2 = if i.highAvailabilityMode = clusterHighAvailabilityModeNone then singleNodeMasterIgnitionPath
      else env.filepathJoin installDir (i.role ++ "-" ++ i.hostID ++ ".ign") := by
  split at ha
  · rw [if_pos ‹_›, (createSingleNodeMasterIgnition_returns i fuel env h a ha).1]
  · rw [if_neg ‹_›, Prog.bind_run] at *
    rcases hr : downloadHostIgnition i env h with ⟨p | e | _, t⟩ <;> rw [hr] at ha <;> cases ha
    exact downloadHostIgnition_path i env h p (by rw [hr])

section
variable {env : Env} {p : String}

theorem writesFrom_triple {α : Type} {m : Go α} (hm : Prog.Emits (fun x => x.kind ≠ .write) m) :
    Prog.Triple env (fun t => ∀ x ∈ t, WritesFrom p x) m (fun _ t => ∀ x ∈ t, WritesFrom p x)
      fun t _ => ∀ x ∈ t, WritesFrom p x :=
  Prog.Triple.all (Prog.Emits.mono hm fun _ => writesFrom_of_kind)

theorem noWrite_of_kinds {α : Type} {ks : List Kind} {m : Go α} (hm : Kinds ks m) (hks : Kind.write ∉ ks) :
    Prog.Emits (fun x => x.kind ≠ .write) m :=
  Prog.Emits.mono hm fun _ hx he => hks (he ▸ hx)

/-- The ignition step of `InstallNode` writes no image, and returns the file of the host's role. -/
theorem ignitionPath_writesFrom (i : Config) (fuel : Nat) :
    Prog.Triple env (fun t => ∀ x ∈ t, WritesFrom p x)
      (if i.highAvailabilityMode = clusterHighAvailabilityModeNone then createSingleNodeMasterIgnition i fuel
        else do
          let ignitionPath ← downloadHostIgnition i
          pure (i, ignitionPath))
      (fun a t => (∀ x ∈ t, WritesFrom p x) ∧
        a.2 = if i.highAvailabilityMode = clusterHighAvailabilityModeNone then singleNodeMasterIgnitionPath
          else env.filepathJoin installDir (i.role ++ "-" ++ i.hostID ++ ".ign"))
      fun t _ => ∀ x ∈ t, WritesFrom p x :=
  (writesFrom_triple (noWrite_of_kinds (Prog.Emits.ite (createSingleNodeMasterIgnition_kinds _ fuel)
    (((downloadHostIgnition_kinds _).mono (by decide : [Kind.other] ⊆ [.progress .waitingForBootkube, .other])).bind
      fun _ => Prog.Emits.pure _)) (by decide))).add fun _ h a _ ha => ignitionPath_path i fuel env h a ha

end

theorem installNodeSteps_writesFrom (i : Config) (fuel : Nat) (env : Env) :
    Prog.Triple env (fun t => ∀ x ∈ t, WritesFrom (hostIgnitionPath env i) x) (installNodeSteps i fuel)
      (fun _ t => ∀ x ∈ t, WritesFrom (hostIgnitionPath env i) x)
      fun t _ => ∀ x ∈ t, WritesFrom (hostIgnitionPath env i) x := by
  refine (writesFrom_triple (noWrite_of_kinds (updateHostInstallProgress_kinds _ _ _) (by decide))).bind fun _ =>
    (writesFrom_triple (noWrite_of_kinds (kinds_callValue (kind_mem_other (by rfl))) (by decide))).bind fun dev =>
    (writesFrom_triple (noWrite_of_kinds (cleanupInstallDevice_kinds _) (by decide))).bind fun _ =>
    (writesFrom_triple (noWrite_of_kinds (kinds_callUnit (kind_mem_other (by rfl))) (by decide))).bind fun _ =>
    (writesFrom_triple (Prog.Emits.ite (startBootstrapGoroutines_emits _ _ _) (Prog.Emits.pure _))).bind fun g =>
    (writesFrom_triple (noWrite_of_kinds (updateHostInstallProgress_kinds _ _ _) (by decide))).bind fun _ =>
    (ignitionPath_writesFrom _ fuel).bind fun x => ?_
  rcases x with ⟨i', path⟩
  refine Prog.Triple.pull fun hp => ?_
  have hp : path = hostIgnitionPath env i := by
    refine hp.trans ?_
    unfold hostIgnitionPath
    split_ifs <;> simp_all
  subst hp
  exact (Prog.Triple.all (writeImageToDisk_writesFrom i' _)).bind fun _ =>
    (writesFrom_triple (noWrite_of_kinds (kinds_callUnit (kind_mem .setBootOrder (by rfl)
      (List.mem_singleton_self _))).discard (by decide))).bind fun _ =>
    (writesFrom_triple (Prog.Emits.ite
      ((noWrite_of_kinds (updateHostInstallProgress_kinds _ _ _) (by decide)).bind fun _ =>
        (noWrite_of_kinds (errGroupWait_kinds _) (by decide)).bind fun _ =>
        noWrite_of_kinds (waitForControlPlane_kinds _ rfl _) (by decide))
      (Prog.Emits.ite (noWrite_of_kinds (workerWaitFor2ReadyMasters_kinds _ _) (by decide))
        (Prog.Emits.pure _)))).bind fun _ =>
    (writesFrom_triple (noWrite_of_kinds (kinds_notify (kind_mem_other (by rfl))) (by decide))).bind fun _ =>
    (writesFrom_triple (noWrite_of_kinds (kinds_callText (kind_mem .uploadLogs (by rfl)
      (List.mem_singleton_self _))).discard (by decide))).bind fun _ => writesFrom_triple (Prog.Emits.pure _)

/-- Every image `InstallNode` writes is from the ignition of the host's role: `master.ign` on a
single node, else `<role>-<hostID>.ign` under the install dir, the bootstrap host installing the
master's (its role is rewritten before the download). -/
theorem installNode_writesFrom (i : Config) (fuel : Nat) (env : Env) (h : List Event) :
    WritesOnlyFrom (hostIgnitionPath env i) (installNode i fuel env h).2 :=
  ((installNodeSteps_writesFrom i fuel env).bind fun c =>
    writesFrom_triple (noWrite_of_kinds (finalize_kinds c) (by decide))).run_of (fun _ h => nomatch h) h

end AssistedInstaller
