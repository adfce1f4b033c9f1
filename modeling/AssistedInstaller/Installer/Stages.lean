import AssistedInstaller.Installer.NodeEnd

/-
  AssistedInstaller.Installer.Stages — the stages the installer reports for its own
  host, over whole runs of `InstallNode` and `RunInstaller`.

  Each kind of host has its canonical sequence (`canonicalStages`): single node,
  bootstrap, worker, any other role. `InstallNode` reports a prefix of its host's
  sequence, all of it when it returns (`installNode_reports`); the prefix is cut
  wherever a step fails or a wait runs on. The branch a host takes is decided by its
  role and availability mode before the ignition step, and the role the later
  branches test is the one the ignition step leaves (`ignitionPath_role`).

  Proved:
  `runInstaller_stages`: for a host with an id, `RunInstaller` reports a prefix of the
  host's canonical sequence, followed by one `Failed` exactly when it returns an error,
  which is exactly when its `InstallNode` did.
-/

namespace AssistedInstaller

/-- The stages a host reports, in order, as listed for each kind of host. -/
def canonicalStages (i : Config) : List HostStage :=
  if i.highAvailabilityMode = clusterHighAvailabilityModeNone then
    [.startingInstallation, .installing, .waitingForBootkube, .writingImageToDisk, .rebooting]
  else if i.role = hostRoleBootstrap then
    [.startingInstallation, .installing, .writingImageToDisk, .waitingForControlPlane, .waitingForControlPlane,
      .waitingForBootkube, .waitingForController, .rebooting]
  else if i.role = hostRoleWorker then
    [.startingInstallation, .installing, .writingImageToDisk, .waitingForControlPlane, .rebooting]
  else [.startingInstallation, .installing, .writingImageToDisk, .rebooting]

/-! ## Each step -/

section
variable (i : Config) (hi : i.hostID ≠ "")
include hi

theorem writeImageToDisk_reports (path : String) : Reports [.writingImageToDisk] (writeImageToDisk i path) := by
  refine (updateHostInstallProgress_reports i _ _ hi).bind fun _ => reports_nil (?_ : Kinds [.write] _) (by simp)
  refine (retry_emits 3 ((kinds_callUnit (by simp [Call.kind])).attempt.bind fun r => ?_)).bind fun err => ?_
  · cases r <;> exact Prog.Emits.pure _
  · cases err
    exacts [Prog.Emits.pure _, Prog.Emits.throw _]

theorem finalize_reports : Reports [.rebooting] (finalize i) := by
  refine (updateHostInstallProgress_reports i _ _ hi).bind fun _ =>
    reports_nil (?_ : Kinds [.other, .reboot, .stopAgent, .touch] _) (by simp)
  refine Prog.Emits.ite ?_ ((kinds_callText (by exact of_decide_eq_true rfl)).bind fun _ => Prog.Emits.ite ?_ ?_)
  · refine (kinds_callText (by exact of_decide_eq_true rfl)).attempt.bind fun r => ?_
    cases r
    exacts [Prog.Emits.throw _, Prog.Emits.pure _]
  all_goals exact kinds_callUnit (by exact of_decide_eq_true rfl)

end

/-! ## The branches -/

/-- What the ignition step reports: `WaitingForBootkube` on single node, while the bootstrap
flow builds the master ignition. -/
def ignitionStages (i : Config) : List HostStage :=
  if i.highAvailabilityMode = clusterHighAvailabilityModeNone then [.waitingForBootkube] else []

/-- What a host reports between the image write and `finalize`, by its branch. -/
def branchStages (i : Config) : List HostStage :=
  if i.role = hostRoleBootstrap ∧ i.highAvailabilityMode ≠ clusterHighAvailabilityModeNone then
    [.waitingForControlPlane, .waitingForControlPlane, .waitingForBootkube, .waitingForController]
  else if i.role = hostRoleWorker ∧ i.highAvailabilityMode ≠ clusterHighAvailabilityModeNone then
    [.waitingForControlPlane]
  else []

theorem canonicalStages_eq (i : Config) : canonicalStages i =
    [.startingInstallation, .installing] ++ ignitionStages i ++ [.writingImageToDisk] ++ branchStages i ++
      [.rebooting] := by
  unfold canonicalStages ignitionStages branchStages
  by_cases hha : i.highAvailabilityMode = clusterHighAvailabilityModeNone
  · simp [hha]
  · by_cases hb : i.role = hostRoleBootstrap
    · simp [hha, hb]
    · by_cases hw : i.role = hostRoleWorker
      · simp [hha, hw, show hostRoleWorker ≠ hostRoleBootstrap by decide]
      · simp [hha, hb, hw]

/-- The role the branches after the ignition step test is a worker's exactly when the host is
a worker outside single node (on single node the step makes it a master). -/
theorem ignitionPath_role (i : Config) (fuel : Nat) :
    Prog.Returns (fun (a : Config × String) _ => a.1.hostID = i.hostID ∧ (a.1.role = hostRoleWorker ↔
      i.role = hostRoleWorker ∧ i.highAvailabilityMode ≠ clusterHighAvailabilityModeNone))
      (if i.highAvailabilityMode = clusterHighAvailabilityModeNone then createSingleNodeMasterIgnition i fuel
        else do
          let ignitionPath ← downloadHostIgnition i
          pure (i, ignitionPath)) := by
  refine Prog.Returns.ite (fun h => (createSingleNodeMasterIgnition_returns i fuel).mono fun _ _ ⟨ha, _⟩ => ?_)
    fun h => (Prog.Returns.any.bind fun _ => Prog.Returns.pure _).mono fun _ _ ⟨_, _, _, _, _, ha, _⟩ => ?_
  · subst ha
    simp [h, show hostRoleMaster ≠ hostRoleWorker by decide]
  · subst ha
    simp [h]

theorem installNodeSteps_reports (i : Config) (hi : i.hostID ≠ "") (fuel : Nat) :
    Reports ([.startingInstallation, .installing] ++ ignitionStages i ++ [.writingImageToDisk] ++ branchStages i)
      (installNodeSteps i fuel) := by
  have hn : ∀ {α : Type} {m : Go α}, Kinds [.other] m → Reports [] m := reports_of_kinds
  refine Prog.Reports.congr (?_ : Reports ([.startingInstallation] ++ ([] ++ ([] ++ ([] ++ ([] ++
    ([.installing] ++ (ignitionStages i ++ ([.writingImageToDisk] ++ branchStages i)))))))) _) (by simp)
  refine (updateHostInstallProgress_reports i _ _ hi).bind fun _ =>
    (hn (kinds_callValue (kind_mem_other (by rfl)))).bind fun dev => (hn (cleanupInstallDevice_kinds _)).bind fun _ =>
    (hn (kinds_callUnit (kind_mem_other (by rfl)))).bind fun _ =>
    (hn (Prog.Emits.ite (startBootstrapGoroutines_emits _ _ _) (Prog.Emits.pure _))).bind fun g =>
    (updateHostInstallProgress_reports _ _ _ (by exact hi)).bind fun _ => ?_
  refine (Prog.Reports.ite (fun h => (createSingleNodeMasterIgnition_reports _ (by exact hi) fuel).congr ?_)
    fun h => ((hn (downloadHostIgnition_kinds _)).bind fun _ => hn (Prog.Emits.pure _)).congr ?_).bind_of_returns
    (ignitionPath_role _ fuel) fun x hx => ?_
  · simp [ignitionStages, show i.highAvailabilityMode = _ from h]
  · simp [ignitionStages, show ¬i.highAvailabilityMode = _ from h]
  rcases x with ⟨i', path⟩
  obtain ⟨hid, hw⟩ := hx
  have hi' : i'.hostID ≠ "" := fun h => hi (hid.symm.trans h)
  refine Prog.Reports.congr (?_ : Reports ([.writingImageToDisk] ++ ([] ++ (branchStages i ++ ([] ++ ([] ++ [])))))
    _) (by simp)
  refine (writeImageToDisk_reports i' hi' path).bind fun _ =>
    (reports_nil (kinds_callUnit (kind_mem .setBootOrder (by rfl) (List.mem_singleton_self _))).discard
      (by simp)).bind fun _ =>
    (Prog.Reports.ite (fun hb => ?_) fun hb => Prog.Reports.ite (fun hw' => ?_) fun hw' => ?_).bind fun _ =>
    (hn (kinds_notify (kind_mem_other (by rfl)))).bind fun _ =>
    (reports_nil (kinds_callText (kind_mem .uploadLogs (by rfl) (List.mem_singleton_self _))).discard
      (by simp)).bind fun _ => hn (Prog.Emits.pure _)
  · have hb' : i.role = hostRoleBootstrap ∧ i.highAvailabilityMode ≠ clusterHighAvailabilityModeNone := hb
    exact ((updateHostInstallProgress_reports i' _ _ hi').bind fun _ =>
      (reports_nil (errGroupWait_kinds g) (by simp)).bind fun _ => waitForControlPlane_reports i' hi' rfl fuel).congr
      (by simp [branchStages, hb'])
  all_goals have hb' : ¬(i.role = hostRoleBootstrap ∧ i.highAvailabilityMode ≠ clusterHighAvailabilityModeNone) := hb
  all_goals simp only [if_neg hb] at hw
  · have hw₁ : i.role = hostRoleWorker ∧ i.highAvailabilityMode ≠ clusterHighAvailabilityModeNone := hw.mp hw'
    exact (workerWaitFor2ReadyMasters_reports i' hi' fuel).congr
      (by simp [branchStages, hw₁, show hostRoleWorker ≠ hostRoleBootstrap by decide])
  · exact (hn (Prog.Emits.pure _)).congr
      (by simp [branchStages, hb', show ¬(i.role = hostRoleWorker ∧ _) from fun h => hw' (hw.mpr h)])

theorem installNodeSteps_hostID (i : Config) (fuel : Nat) :
    Prog.Returns (fun c _ => c.hostID = i.hostID) (installNodeSteps i fuel) := by
  refine Prog.Returns.bind_value fun _ => Prog.Returns.bind_value fun _ => Prog.Returns.bind_value fun _ =>
    Prog.Returns.bind_value fun _ => Prog.Returns.bind_value fun _ => Prog.Returns.bind_value fun _ =>
    Prog.Returns.bind_of_returns (ignitionPath_role _ fuel) fun x hx => ?_
  rcases x with ⟨i', path⟩
  exact Prog.Returns.bind_value fun _ => Prog.Returns.bind_value fun _ => Prog.Returns.bind_value fun _ =>
    Prog.Returns.bind_value fun _ => Prog.Returns.bind_value fun _ =>
    (Prog.Returns.pure _).mono fun _ _ ⟨h, _⟩ => h ▸ hx.1

theorem installNode_reports (i : Config) (hi : i.hostID ≠ "") (fuel : Nat) :
    Reports (canonicalStages i) (installNode i fuel) :=
  ((installNodeSteps_reports i hi fuel).bind_of_returns (installNodeSteps_hostID i fuel) fun c hc =>
    finalize_reports c (hc ▸ hi)).congr (canonicalStages_eq i).symm

theorem runInstaller_stages (i : Config) (hi : i.hostID ≠ "") (fuel : Nat) :
    Prog.Sat (runInstaller i fuel) (fun t o =>
      ((∀ e, o ≠ .err e) → t.filterMap Event.reportedStage <+: canonicalStages i ∧
        (o = .ok () → t.filterMap Event.reportedStage = canonicalStages i)) ∧
      ∀ e, o = .err e → ∃ L, L <+: canonicalStages i ∧ t.filterMap Event.reportedStage = L ++ [.failed]) ∧
    ∀ env h e, (runInstaller i fuel env h).1 = .err e ↔
      (installNode i fuel env (h ++ (formatDisks i env h).2)).1 = .err e := by
  refine ⟨fun env h => ?_, fun env h e => ?_⟩ <;> have hf := formatDisks_ok i env h <;>
    have hd := reports_of_kinds (formatDisks_kinds i) env h <;>
    have hr := installNode_reports i hi fuel env (h ++ (formatDisks i env h).2) <;>
    simp only [runInstaller, Prog.bind_run] <;>
    rcases hfd : formatDisks i env h with ⟨_ | e | _, t⟩ <;> rw [hfd] at hf hd hr <;> simp only [reduceCtorEq] at hf <;>
    simp only [Prog.attempt]
  · have ht : t.filterMap Event.reportedStage = [] := List.prefix_nil.mp hd.1
    rcases hin : installNode i fuel env (h ++ t) with ⟨⟨⟩ | e | _, t'⟩ <;> rw [hin] at hr <;>
      simp only [Prog.bind_run, Prog.pure_run, List.filterMap_append, ht, List.nil_append, List.append_nil]
    · exact ⟨fun _ => ⟨hr.1, fun _ => hr.2 () rfl⟩, fun _ h => nomatch h⟩
    · refine ⟨fun h => absurd rfl (h e), fun _ _ => ⟨_, hr.1, ?_⟩⟩
      simp [updateHostInstallProgress, hi, Event.reportedStage]
    · exact ⟨fun _ => ⟨hr.1, fun h => nomatch h⟩, fun _ h => nomatch h⟩
  · rcases installNode i fuel env (h ++ t) with ⟨⟨⟩ | e' | _, t'⟩ <;> simp [updateHostInstallProgress, Prog.bind_run]

theorem bootstrapConfig_runInstaller_stages :
    bootstrapConfig.hostID ≠ "" ∧
    Prog.Sat (runInstaller bootstrapConfig 2) (fun t o =>
      ((∀ e, o ≠ .err e) → t.filterMap Event.reportedStage <+: canonicalStages bootstrapConfig ∧
        (o = .ok () → t.filterMap Event.reportedStage = canonicalStages bootstrapConfig)) ∧
      ∀ e, o = .err e → ∃ L, L <+: canonicalStages bootstrapConfig ∧
        t.filterMap Event.reportedStage = L ++ [.failed]) ∧
    ∀ env h e, (runInstaller bootstrapConfig 2 env h).1 = .err e ↔
      (installNode bootstrapConfig 2 env (h ++ (formatDisks bootstrapConfig env h).2)).1 = .err e :=
  ⟨by decide, runInstaller_stages bootstrapConfig (by decide) 2⟩

end AssistedInstaller
