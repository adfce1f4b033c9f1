import AssistedInstaller.Installer.Cleanup
import AssistedInstaller.Installer.Configuring
import AssistedInstaller.Installer.ControlPlane
import AssistedInstaller.Installer.Worker
import AssistedInstaller.Utils.Retry

/-
  AssistedInstaller.Installer.InstallNode — `InstallNode`, its image write
  (`writeImageToDisk`, through `utils.Retry`), its end (`finalize`: reboot, stop the
  agent for ironic, or touch the fake reboot marker in dry run) and `RunInstaller`.

  The bootstrap flow runs in `bootstrapErrGroup`'s goroutine beside the main flow:
  `Prog.spawn` runs it on the history of the moment it starts and keeps only how it
  ends, which `bootstrapErrGroup.Wait()` records (`errGroupWait`). Its calls are not in
  the main flow's trace; none of them ends the node or reports its stage
  (`startBootstrap_kinds`). The `updateConfiguringStatus` goroutine is spawned beside it
  (`startBootstrapGoroutines`, running `updateConfiguringStatusGo`) and nothing waits for
  it. `InstallNode`'s context is cancelled only by its deferred `cancel()`, so the waits it
  runs see it never cancelled. The part after `SetBootOrder` is `installNodeAfterBootOrder`,
  so that what follows the call can be named.
  - `writeImageToDisk_kinds`, `writeImageToDisk_writes`: at most three calls of
    `WriteImageToDisk`, and on return the last one answered nil for the given path
    and the config's device.
  - `finalize_ends`: `finalize` always returns; its node-terminating call is the last
    event, and it returns nil exactly when that call did.
  - `installNodeSteps_prepared`: when the steps before `finalize` return, the device was
    resolved and cleaned (unless a flag skips it), the install dir made, an ignition
    file obtained, and the image written from it to the resolved device.
  - `installNodeSteps_writes`: the steps make at most three `WriteImageToDisk` calls.
-/

namespace AssistedInstaller

/-- `strings.Contains(s, substr)`. -/
def stringsContains (s substr : String) : Bool := decide (substr.toList <:+: s.toList)

/-- `installer.writeImageToDisk`: up to 3 attempts, a second apart. -/
def writeImageToDisk (i : Config) (ignitionPath : String) : Go Unit := do
  updateHostInstallProgress i .writingImageToDisk ""
  let err ← retry 3 (pure ()) do
    match ← Prog.attempt (Ops.writeImageToDisk ignitionPath i.device i.installerArgs) with
    | .ok _ => pure none
    | .error e => pure (some e)
  match err with
  | some e => Prog.throw e
  | none => pure ()

/-- `installer.finalize`. -/
def finalize (i : Config) : Go Unit := do
  updateHostInstallProgress i .rebooting ""
  if i.dryRunEnabled then
    match ← Prog.attempt (Ops.execPrivilegeCommand "touch" [i.fakeRebootMarkerPath]) with
    | .ok _ => pure ()
    | .error err => Prog.throw (wrapError "failed to touch fake reboot marker" err)
  else
    let ironicAgentServiceName := "ironic-agent.service"
    let out ← Ops.execPrivilegeCommand "systemctl" ["list-units", "--no-legend", ironicAgentServiceName]
    if stringsContains out ironicAgentServiceName then
      Ops.systemctlAction ["stop", "agent.service"]
    else
      Ops.reboot

/-- `bootstrapErrGroup.Wait()`: blocks until the goroutine returns, then returns its error. -/
def errGroupWait (g : Out Unit) : Go Unit :=
  match g with
  | .ok () => Prog.emit (.errGroupWait (.ok ()))
  | .err e => do
    Prog.emit (.errGroupWait (.error e))
    Prog.throw e
  | .pending => Prog.stall

/-- The bootstrap host's two goroutines: `bootstrapErrGroup.Go(startBootstrap)`, whose outcome
`bootstrapErrGroup.Wait()` returns, and `go updateConfiguringStatus(ctx)`, which nothing waits
for. -/
def startBootstrapGoroutines (i : Config) (ctx : Context) (fuel : Nat) : Go (Out Unit) := do
  let bootstrapErrGroup ← Prog.spawn (startBootstrap i)
  let _ ← Prog.spawn (updateConfiguringStatusGo i ctx fuel)
  pure bootstrapErrGroup

/-- `InstallNode` after `SetBootOrder`, on the config `i` it holds by then: the wait of its role
(on the bootstrap host `bootstrapErrGroup.Wait()` and `waitForControlPlane`), the log-state
report and the log upload. -/
def installNodeAfterBootOrder (i : Config) (isBootstrap : Prop) [Decidable isBootstrap]
    (bootstrapErrGroup : Out Unit) (ctx : Context) (fuel : Nat) : Go Config := do
  (if isBootstrap then do
      updateHostInstallProgress i .waitingForControlPlane waitingForBootstrapToPrepare
      errGroupWait bootstrapErrGroup
      waitForControlPlane i ctx fuel
    else if i.role = hostRoleWorker then workerWaitFor2ReadyMasters i fuel
    else pure ())
  InventoryClient.hostLogProgressReport i.infraEnvID i.hostID logsStateRequested
  Prog.discard (Ops.uploadInstallationLogs
    (isBootstrap || i.highAvailabilityMode = clusterHighAvailabilityModeNone))
  pure i

/-- `installer.InstallNode` up to its last line, `return i.finalize()`: the config as the method
left it (its `Role` and `Device` rewritten). `fuel` bounds the turns of each wait loop
followed. -/
def installNodeSteps (i : Config) (fuel : Nat) : Go Config := do
  updateHostInstallProgress i .startingInstallation i.role
  let device ← Ops.evaluateDiskSymlink i.device
  let i := { i with device }
  cleanupInstallDevice i
  Ops.mkdir installDir
  let ctx : Context := ⟨false⟩
  let isBootstrap := i.role = hostRoleBootstrap ∧ i.highAvailabilityMode ≠ clusterHighAvailabilityModeNone
  let bootstrapErrGroup ← (if isBootstrap then startBootstrapGoroutines i ctx fuel else pure (.ok ()))
  let i := { i with role := if isBootstrap then hostRoleMaster else i.role }
  updateHostInstallProgress i .installing i.role
  let (i, ignitionPath) ← (if i.highAvailabilityMode = clusterHighAvailabilityModeNone then
      createSingleNodeMasterIgnition i fuel
    else do
      let ignitionPath ← downloadHostIgnition i
      pure (i, ignitionPath))
  writeImageToDisk i ignitionPath
  Prog.discard (Ops.setBootOrder i.device)
  installNodeAfterBootOrder i isBootstrap bootstrapErrGroup ctx fuel

/-- `installer.InstallNode`. -/
def installNode (i : Config) (fuel : Nat) : Go Unit := do
  let i ← installNodeSteps i fuel
  finalize i

/-- `RunInstaller`, from the installer built on `installerConfig`. -/
def runInstaller (installerConfig : Config) (fuel : Nat) : Go Unit := do
  formatDisks installerConfig
  match ← Prog.attempt (installNode installerConfig fuel) with
  | .ok () => pure ()
  | .error err => do
    updateHostInstallProgress installerConfig .failed err.msg
    Prog.throw err

/-! ## The image write -/

section
variable (i : Config) (path : String)

/-- A `WriteImageToDisk` call. -/
def Event.isWrite (x : Event) : Bool := decide (x.kind = .write)

/-- The event of a `WriteImageToDisk` of `path` to the config's device that returned nil. -/
abbrev imageWritten : Event :=
  .call (.writeImageToDisk path i.device i.installerArgs) (.unit (.ok ()))

theorem writeImageToDisk_kinds : Kinds [.progress .writingImageToDisk, .write] (writeImageToDisk i path) := by
  refine (Kinds.widen _ (updateHostInstallProgress_kinds i _ _) (by simp)).bind fun _ =>
    (retry_emits 3 ((kinds_callUnit (by simp [Call.kind])).attempt.bind fun r => ?_)).bind fun err => ?_
  · cases r <;> exact Prog.Emits.pure _
  · cases err
    exacts [Prog.Emits.pure _, Prog.Emits.throw _]

theorem writeImageToDisk_writes : Prog.AtMost Event.isWrite 3 (writeImageToDisk i path) := by
  have hbody : Prog.AtMost Event.isWrite 1 (do
      match ← Prog.attempt (Ops.writeImageToDisk path i.device i.installerArgs) with
      | .ok _ => pure none
      | .error e => pure (some e)) := fun env h => by
    simp only [Ops.writeImageToDisk, callUnit, Prog.attempt_query_bind_run]
    cases env.unit h (.writeImageToDisk path i.device i.installerArgs) <;>
      exact (List.countP_le_length _).trans (by simp)
  have hp : Prog.AtMost Event.isWrite 0 (updateHostInstallProgress i .writingImageToDisk "") :=
    .of_emits (Prog.Emits.mono (updateHostInstallProgress_kinds i _ _) fun x hx => by
      simp_all [Event.isWrite])
  refine (hp.bind fun _ => (retry_atMost 3 hbody).bind fun err =>
    (?_ : Prog.AtMost Event.isWrite 0 _)).mono (by decide)
  cases err
  exacts [.of_emits (Prog.Emits.pure _), .of_emits (Prog.Emits.throw _)]

theorem writeImageToDisk_returns :
    Prog.Returns (fun _ t => imageWritten i path ∈ t) (writeImageToDisk i path) := by
  have hbody : Prog.Returns (fun r t => r = none → ∃ x ∈ t, x = imageWritten i path) (do
      match ← Prog.attempt (Ops.writeImageToDisk path i.device i.installerArgs) with
      | .ok _ => pure none
      | .error e => pure (some e)) := fun env h r hr => by
    simp only [Ops.writeImageToDisk, callUnit, Prog.attempt_query_bind_run] at hr ⊢
    revert hr
    cases env.unit h (.writeImageToDisk path i.device i.installerArgs) <;> simp
    rintro rfl
    simp
  refine (Prog.Returns.any.bind fun _ => (retry_returns 3 hbody).bind fun err =>
    (?_ : Prog.Returns (fun _ _ => err = none) _)).mono ?_
  · cases err
    exacts [(Prog.Returns.pure _).mono fun _ _ _ => rfl, Prog.Returns.throw _]
  · rintro _ _ ⟨_, _, _, rfl, -, _, _, _, rfl, h, rfl⟩
    obtain ⟨x, hx, rfl⟩ := h rfl
    simp [hx]


end

/-! ## The node-terminating call -/

def terminalKinds : List Kind := [.reboot, .stopAgent, .touch]

/-- A node-terminating call: `Reboot`, `SystemctlAction("stop", "agent.service")`, or the dry
run's `touch`. -/
def Event.Terminal (x : Event) : Prop := x.kind ∈ terminalKinds

instance : DecidablePred Event.Terminal := fun x => inferInstanceAs (Decidable (x.kind ∈ terminalKinds))

/-- Every node-terminating call of `t` is its last event. -/
def TerminalLast (t : List Event) : Prop :=
  ∀ pre x post, t = pre ++ x :: post → x.Terminal → post = []

/-- Every node-terminating call of `t` comes after a prefix satisfying `B`. -/
def Guarded (B : List Event → Prop) (t : List Event) : Prop :=
  ∀ pre x post, t = pre ++ x :: post → x.Terminal → B pre

section
variable {t t₁ t₂ pre : List Event} {x : Event}

theorem TerminalLast.of_forall (h : ∀ y ∈ t, ¬y.Terminal) : TerminalLast t := by
  rintro pre x post rfl hx
  exact absurd hx (h x (by simp))

theorem TerminalLast.append (h₁ : ∀ y ∈ t₁, ¬y.Terminal) (h₂ : TerminalLast t₂) :
    TerminalLast (t₁ ++ t₂) := by
  intro pre x post ht hx
  rcases List.append_eq_append_iff.mp ht with ⟨c, rfl, hc⟩ | ⟨c, rfl, hc⟩
  · exact h₂ c x post hc hx
  · rcases c with _ | ⟨y, c⟩
    · exact h₂ [] x post (by simpa using hc.symm) hx
    · obtain ⟨rfl, -⟩ := List.cons.inj hc
      exact absurd hx (h₁ x (by simp))

theorem TerminalLast.snoc (h : ∀ y ∈ pre, ¬y.Terminal) : TerminalLast (pre ++ [x]) :=
  TerminalLast.append h fun pre' y post ht _ => by
    rcases pre' with _ | ⟨z, pre'⟩
    · exact (List.cons.inj ht).2.symm
    · simp at ht

/-- So there is at most one node-terminating call. -/
theorem TerminalLast.countP_le_one (h : TerminalLast t) : t.countP (fun x => decide x.Terminal) ≤ 1 := by
  rcases List.eq_nil_or_concat t with rfl | ⟨pre, x, rfl⟩
  · simp
  · rw [List.concat_eq_append] at h ⊢
    have hpre : pre.countP (fun x => decide x.Terminal) = 0 := List.countP_eq_zero.mpr fun y hy hy' => by
      obtain ⟨l₁, l₂, rfl⟩ := List.append_of_mem hy
      simpa using h l₁ y (l₂ ++ [x]) (by simp) (of_decide_eq_true hy')
    rw [List.countP_append, hpre, Nat.zero_add]
    exact (List.countP_le_length _).trans (by simp)

theorem Guarded.append {B : List Event → Prop} (hB : ∀ t t', B t → B (t ++ t'))
    (h₁ : ∀ y ∈ t₁, ¬y.Terminal) (hb : B t₁) : Guarded B (t₁ ++ t₂) := by
  intro pre x post ht hx
  rcases List.append_eq_append_iff.mp ht with ⟨c, rfl, -⟩ | ⟨c, rfl, hc⟩
  · exact hB _ _ hb
  · rcases c with _ | ⟨y, c⟩
    · simpa using hb
    · obtain ⟨rfl, -⟩ := List.cons.inj hc
      exact absurd hx (h₁ x (by simp))

/-- With every node-terminating call last, a trace that ends in events that are no such call has
none. -/
theorem TerminalLast.none_of_tail {post : List Event} (h : TerminalLast (pre ++ x :: post)) (hx : ¬x.Terminal)
    (hpost : ∀ y ∈ post, ¬y.Terminal) : ∀ y ∈ pre ++ x :: post, ¬y.Terminal := by
  intro y hy hyT
  obtain ⟨s, s', hs⟩ := List.append_of_mem hy
  obtain rfl := h s y s' hs hyT
  rcases List.append_eq_append_iff.mp hs with ⟨c, -, hc⟩ | ⟨c, -, hc⟩
  · rcases List.mem_cons.mp (show y ∈ x :: post from hc ▸ by simp) with rfl | hy'
    exacts [hx hyT, hpost y hy' hyT]
  · rcases c with _ | ⟨z, c⟩
    · exact hx ((List.cons.inj hc).1 ▸ hyT)
    · simp at hc

end

/-- How `finalize` ends: its node-terminating call, when made, is its last event; it returns nil
only when that call answered nil, and an error only when that call failed or was not made. -/
structure FinalizeOutcome (t : List Event) (r : Except GoError Unit) : Prop where
  terminalLast : TerminalLast t
  ok : r = .ok () → ∃ pre x, t = pre ++ [x] ∧ x.Terminal ∧ x.error? = none
  error : ∀ e, r = .error e →
    (∀ x ∈ t, ¬x.Terminal) ∨ ∃ pre x, t = pre ++ [x] ∧ x.Terminal ∧ x.error? ≠ none

section
variable {pre t : List Event} {x : Event} {r : Except GoError Unit}

theorem FinalizeOutcome.of_last (hpre : ∀ y ∈ pre, ¬y.Terminal) (hx : x.Terminal)
    (hr : r = .ok () ↔ x.error? = none) : FinalizeOutcome (pre ++ [x]) r where
  terminalLast := .snoc hpre
  ok h := ⟨pre, x, rfl, hx, hr.mp h⟩
  error e h := .inr ⟨pre, x, rfl, hx, fun hn => by simp [hr.mpr hn] at h⟩

theorem FinalizeOutcome.of_none (h : ∀ y ∈ t, ¬y.Terminal) (e : GoError) : FinalizeOutcome t (.error e) where
  terminalLast := .of_forall h
  ok h := by cases h
  error _ _ := .inl h

end

theorem finalize_ends (i : Config) : Prog.Ends (finalize i) FinalizeOutcome := fun env h => by
  simp only [finalize, Prog.bind_run, updateHostInstallProgress]
  generalize (if i.hostID ≠ "" then _ else none) = sent
  have hp : ∀ y ∈ [Event.progress .rebooting "" sent], ¬y.Terminal := of_decide_eq_true rfl
  generalize h ++ [Event.progress .rebooting "" sent] = h'
  split
  · simp only [Ops.execPrivilegeCommand, callText, Prog.attempt_query_bind_run]
    cases env.text h' (.execPrivilegeCommand "touch" [i.fakeRebootMarkerPath]) with
    | ok out => exact ⟨.ok (), rfl, .of_last hp (of_decide_eq_true rfl) (by simp [Event.error?])⟩
    | error e => exact ⟨.error _, rfl, .of_last hp (of_decide_eq_true rfl) (by simp [Event.error?])⟩
  · have hq : ∀ ans, ∀ y ∈ [Event.progress .rebooting "" sent, .call (.execPrivilegeCommand "systemctl"
        ["list-units", "--no-legend", "ironic-agent.service"]) (.text ans)], ¬y.Terminal :=
      fun _ => of_decide_eq_true rfl
    simp only [Ops.execPrivilegeCommand, Ops.systemctlAction, Ops.reboot, callText, callUnit,
      Prog.query_bind_run]
    cases env.text h' (.execPrivilegeCommand "systemctl" ["list-units", "--no-legend", "ironic-agent.service"]) with
    | error e => exact ⟨.error e, rfl, .of_none (hq _) e⟩
    | ok out =>
      dsimp only
      split <;> simp only [Prog.query_run]
      · cases env.unit _ (.systemctlAction ["stop", "agent.service"]) <;>
          exact ⟨_, rfl, .of_last (hq _) (of_decide_eq_true rfl) (by simp [Event.error?])⟩
      · cases env.unit _ .reboot <;>
          exact ⟨_, rfl, .of_last (hq _) (of_decide_eq_true rfl) (by simp [Event.error?])⟩

/-! ## Up to `finalize` -/

/-- The kinds of event `InstallNode` records before `finalize`. -/
def stepKinds : List Kind :=
  [.other, .timedOut, .enabledHosts, .listMasterNodes, .mastersReady, .patchReplicas, .unPatchReplicas, .patchEtcd,
    .write, .setBootOrder, .errGroupWait, .uploadLogs,
    .progress .startingInstallation, .progress .installing, .progress .writingImageToDisk,
    .progress .waitingForControlPlane, .progress .waitingForBootkube, .progress .waitingForController]

@[simp] theorem startBootstrapGoroutines_run (i : Config) (ctx : Context) (fuel : Nat) (env : Env)
    (h : List Event) : startBootstrapGoroutines i ctx fuel env h = (.ok (startBootstrap i env h).1, []) :=
  rfl

/-- Starting the goroutines records nothing in the main flow. -/
theorem startBootstrapGoroutines_emits {R : Event → Prop} (i : Config) (ctx : Context) (fuel : Nat) :
    Prog.Emits R (startBootstrapGoroutines i ctx fuel) := fun env h x hx => by simp at hx

theorem errGroupWait_kinds (g : Out Unit) : Kinds [.errGroupWait] (errGroupWait g) := by
  rcases g with ⟨⟩ | e | _
  · exact Prog.Emits.emit (List.mem_singleton_self _)
  · refine Prog.Emits.bind ?_ fun _ => Prog.Emits.throw _
    exact Prog.Emits.emit (List.mem_singleton_self _)
  · exact Prog.Emits.stall

/-- The kinds of event `InstallNode` records after `SetBootOrder`, before `finalize`. -/
theorem installNodeAfterBootOrder_kinds (i : Config) (isBootstrap : Prop) [Decidable isBootstrap] (g : Out Unit)
    (fuel : Nat) :
    Kinds (controlPlaneKinds ++ [.errGroupWait, .uploadLogs]) (installNodeAfterBootOrder i isBootstrap g ⟨false⟩ fuel) :=
  (Prog.Emits.ite ((Kinds.widen _ (updateHostInstallProgress_kinds _ _ _) (by decide)).bind fun _ =>
      (Kinds.widen _ (errGroupWait_kinds _) (by decide)).bind fun _ =>
        Kinds.widen _ (waitForControlPlane_kinds _ rfl _) (by decide))
    (Prog.Emits.ite (Kinds.widen _ (workerWaitFor2ReadyMasters_kinds _ _) (by decide))
      (Prog.Emits.pure _))).bind fun _ =>
  (kinds_notify (kind_mem .other (by rfl) (by decide))).bind fun _ =>
    (kinds_callText (kind_mem .uploadLogs (by rfl) (by decide))).discard.bind fun _ => Prog.Emits.pure _

theorem installNodeSteps_kinds (i : Config) (fuel : Nat) : Kinds stepKinds (installNodeSteps i fuel) := by
  have hp : ∀ i st info, .progress st ∈ stepKinds → Kinds stepKinds (updateHostInstallProgress i st info) :=
    fun i st info h => Kinds.widen _ (updateHostInstallProgress_kinds i st info) (List.cons_subset.mpr ⟨h, by simp⟩)
  have ho : ∀ {α : Type} {m : Go α}, Kinds [.other] m → Kinds stepKinds m := fun h => Kinds.widen _ h (by decide)
  have hc : ∀ c : Call, c.kind = .other → c.kind ∈ stepKinds := fun c h => h ▸ by decide
  refine (hp _ _ _ (by decide)).bind fun _ => (kinds_callValue (hc _ (by rfl))).bind fun dev => ?_
  refine (ho (cleanupInstallDevice_kinds _)).bind fun _ => (kinds_callUnit (hc _ (by rfl))).bind fun _ => ?_
  refine (Prog.Emits.ite (startBootstrapGoroutines_emits _ _ _) (Prog.Emits.pure _)).bind fun g => ?_
  refine (hp _ _ _ (by decide)).bind fun _ => (Prog.Emits.ite
    (Kinds.widen _ (createSingleNodeMasterIgnition_kinds _ _) (by decide))
    ((ho (downloadHostIgnition_kinds _)).bind fun _ => Prog.Emits.pure _)).bind fun x => ?_
  rcases x with ⟨i', path⟩
  exact (Kinds.widen _ (writeImageToDisk_kinds _ _) (by decide)).bind fun _ =>
    (kinds_callUnit (kind_mem .setBootOrder (by rfl) (by decide))).discard.bind fun _ =>
      Kinds.widen _ (installNodeAfterBootOrder_kinds _ _ _ _) (by decide)

/-! ## What the node-terminating call needs -/

/-- The install device resolved to `dev`, cleaned (unless a flag skips it), and the install
dir made. -/
def DeviceReady (i : Config) (dev : String) (t : List Event) : Prop :=
  Event.call (.evaluateDiskSymlink i.device) (.value dev) ∈ t ∧
  (i.dryRunEnabled = true ∨ i.skipInstallationDiskCleanup = true ∨
    Event.call (.wipefs dev) (.unit (.ok ())) ∈ t) ∧
  Event.call (.mkdir installDir) (.unit (.ok ())) ∈ t

/-- An ignition file obtained at `path`: downloaded for the host, or on single node the master
ignition found (and written, unless in dry run). -/
def IgnitionObtained (dryRun : Bool) (path : String) (t : List Event) : Prop :=
  (∃ infraEnvID hostID, Event.call (.downloadHostIgnition infraEnvID hostID path) (.unit (.ok ())) ∈ t) ∨
  (path = singleNodeMasterIgnitionPath ∧ (∃ x ∈ t, SingleNodeIgnitionFound x) ∧
    (dryRun = true ∨ ∃ x ∈ t, SingleNodeIgnitionWritten x))

/-- What a node-terminating call needs before it: the device ready, an ignition file, and the
image written from it to the device. -/
def Prepared (i : Config) (t : List Event) : Prop :=
  ∃ dev, DeviceReady i dev t ∧ ∃ path, IgnitionObtained i.dryRunEnabled path t ∧
    Event.call (.writeImageToDisk path dev i.installerArgs) (.unit (.ok ())) ∈ t

section
variable {i : Config} {t t' : List Event}

theorem DeviceReady.mono {dev : String} (h : DeviceReady i dev t) (hs : t ⊆ t') : DeviceReady i dev t' :=
  ⟨hs h.1, h.2.1.imp_right (Or.imp_right (hs ·)), hs h.2.2⟩

theorem IgnitionObtained.mono {dryRun : Bool} {path : String} (h : IgnitionObtained dryRun path t)
    (hs : t ⊆ t') : IgnitionObtained dryRun path t' :=
  h.imp (fun ⟨a, b, hx⟩ => ⟨a, b, hs hx⟩) fun ⟨hp, ⟨x, hx, hq⟩, hw⟩ =>
    ⟨hp, ⟨x, hs hx, hq⟩, hw.imp_right fun ⟨x, hx, hq⟩ => ⟨x, hs hx, hq⟩⟩

theorem Prepared.mono (h : Prepared i t) (hs : t ⊆ t') : Prepared i t' :=
  let ⟨dev, hd, path, hi, hw⟩ := h
  ⟨dev, hd.mono hs, path, hi.mono hs, hs hw⟩

end

theorem callUnit_returns (c : Call) : Prog.Returns (fun _ t => Event.call c (.unit (.ok ())) ∈ t) (callUnit c) :=
  (Prog.Returns.query _ _).mono fun _ _ h => h ▸ List.mem_singleton_self _

theorem evaluateDiskSymlink_returns (d : String) :
    Prog.Returns (fun dev t => Event.call (.evaluateDiskSymlink d) (.value dev) ∈ t) (Ops.evaluateDiskSymlink d) :=
  (Prog.Returns.observe _ _).mono fun _ _ h => h ▸ List.mem_singleton_self _

theorem downloadHostIgnition_returns (i : Config) :
    Prog.Returns (fun path t => ∃ infraEnvID hostID,
      Event.call (.downloadHostIgnition infraEnvID hostID path) (.unit (.ok ())) ∈ t) (downloadHostIgnition i) :=
  (Prog.Returns.any.bind fun env => (callUnit_returns _).bind fun _ => Prog.Returns.pure _).mono
    fun _ _ h => by
      obtain ⟨_, _, _, rfl, -, _, _, _, rfl, hx, rfl, -⟩ := h
      exact ⟨i.infraEnvID, i.hostID, by simp [hx]⟩

/-- The ignition step of `InstallNode`: the config it goes on with keeps the device, the
installer args and the dry-run flag, and an ignition file was obtained at the path. -/
theorem ignitionPath_returns (i : Config) (fuel : Nat) :
    Prog.Returns (fun a t => a.1.device = i.device ∧ a.1.installerArgs = i.installerArgs ∧
      IgnitionObtained i.dryRunEnabled a.2 t)
      (if i.highAvailabilityMode = clusterHighAvailabilityModeNone then createSingleNodeMasterIgnition i fuel
        else do
          let ignitionPath ← downloadHostIgnition i
          pure (i, ignitionPath)) := by
  split
  · exact (createSingleNodeMasterIgnition_returns i fuel).mono fun _ _ ⟨ha, hf, hw⟩ => by
      subst ha; exact ⟨rfl, rfl, .inr ⟨rfl, hf, hw⟩⟩
  · exact ((downloadHostIgnition_returns i).bind fun _ => Prog.Returns.pure _).mono
      fun _ _ ⟨_, _, _, ht, hd, ha, ht'⟩ => by
        subst ha ht' ht; exact ⟨rfl, rfl, .inl (by simpa using hd)⟩

theorem installNodeSteps_prepared (i : Config) (fuel : Nat) (env : Env) :
    Prog.Triple env (fun _ => True) (installNodeSteps i fuel) (fun _ => Prepared i) fun _ _ => True := by
  refine (Prog.Triple.frame fun _ _ _ => trivial).bind fun _ => ?_
  refine (Prog.Triple.extend (evaluateDiskSymlink_returns _) (fun _ _ _ => trivial)
    fun _ _ _ h => List.mem_append_right _ h).bind fun dev => ?_
  refine (Prog.Triple.extend (cleanupInstallDevice_returns _) (fun _ _ ⟨_, h⟩ => ⟨trivial, List.mem_append_left _ h⟩)
    fun _ _ _ h => h.imp_right (Or.imp_right (List.mem_append_right _))).bind fun _ => ?_
  refine (Prog.Triple.extend (callUnit_returns _) (fun _ _ ⟨⟨_, h₁⟩, h₂⟩ =>
    ⟨⟨trivial, List.mem_append_left _ h₁⟩, h₂.imp_right (Or.imp_right (List.mem_append_left _))⟩)
    fun _ _ _ h => List.mem_append_right _ h).bind fun _ => ?_
  refine (Prog.Triple.conseq (Prog.Triple.frame fun _ _ h => DeviceReady.mono h (List.subset_append_left _ _))
    (fun _ ⟨⟨⟨_, h₁⟩, h₂⟩, h₃⟩ => ⟨h₁, h₂, h₃⟩) (fun _ _ h => h) fun _ _ h => h).bind fun _ => ?_
  have hdr : ∀ t t', DeviceReady i dev t → DeviceReady i dev (t ++ t') :=
    fun _ _ h => h.mono (List.subset_append_left _ _)
  refine (Prog.Triple.frame hdr).bind fun _ => ?_
  refine (Prog.Triple.extend (ignitionPath_returns _ fuel) hdr fun _ _ _ ⟨h₁, h₂, h₃⟩ =>
    ⟨h₁, h₂, h₃.mono (List.subset_append_right _ _)⟩).bind fun x => ?_
  rcases x with ⟨i', path⟩
  refine (Prog.Triple.extend (writeImageToDisk_returns i' path) (fun _ _ ⟨h₁, h₂, h₃, h₄⟩ =>
      ⟨hdr _ _ h₁, h₂, h₃, h₄.mono (List.subset_append_left _ _)⟩)
    fun _ _ _ h => List.mem_append_right _ h).bind fun _ => ?_
  exact (Prog.Triple.frame fun _ _ h => Prepared.mono h (List.subset_append_left _ _)).conseq
    (fun _ ⟨⟨hd, hdev, hargs, hig⟩, hw⟩ => ⟨dev, hd, path, hig, by dsimp only at hdev hargs; simpa [imageWritten, hdev, hargs] using hw⟩)
    (fun _ _ h => h) fun _ _ h => h

theorem finalize_kinds (i : Config) :
    Kinds [.progress .rebooting, .other, .reboot, .stopAgent, .touch] (finalize i) := by
  refine (Kinds.widen _ (updateHostInstallProgress_kinds i _ _) (by decide)).bind fun _ =>
    Prog.Emits.ite ?_ ((kinds_callText (by exact of_decide_eq_true rfl)).bind fun _ => Prog.Emits.ite ?_ ?_)
  · refine (kinds_callText (by exact of_decide_eq_true rfl)).attempt.bind fun r => ?_
    cases r
    exacts [Prog.Emits.throw _, Prog.Emits.pure _]
  all_goals exact kinds_callUnit (by exact of_decide_eq_true rfl)

/-- A program without `WriteImageToDisk` calls. -/
theorem atMost_write_zero {α : Type} {ks : List Kind} {m : Go α} (hm : Kinds ks m) (hks : Kind.write ∉ ks) :
    Prog.AtMost Event.isWrite 0 m :=
  .of_emits (Prog.Emits.mono hm fun x hx => by
    simp only [Event.isWrite, decide_eq_false_iff_not]
    exact fun h => hks (h ▸ hx))

theorem installNodeSteps_writes (i : Config) (fuel : Nat) : Prog.AtMost Event.isWrite 3 (installNodeSteps i fuel) := by
  have hz : ∀ {α : Type} {m : Go α}, Kinds (stepKinds.erase .write) m → Prog.AtMost Event.isWrite 0 m :=
    fun h => atMost_write_zero h (by decide)
  have hk : ∀ {α : Type} {ks : List Kind} {m : Go α}, Kinds ks m → ks ⊆ stepKinds.erase .write →
      Kinds (stepKinds.erase .write) m := fun h hs => h.mono hs
  have hc : ∀ c : Call, c.kind = .other → c.kind ∈ stepKinds.erase .write := fun c h => h ▸ by decide
  refine ((hz (hk (updateHostInstallProgress_kinds _ _ _) (by decide))).bind fun _ =>
    (hz (kinds_callValue (hc _ (by rfl)))).bind fun dev =>
    (hz (hk (cleanupInstallDevice_kinds _) (by decide))).bind fun _ =>
    (hz (kinds_callUnit (hc _ (by rfl)))).bind fun _ =>
    (hz (Prog.Emits.ite (startBootstrapGoroutines_emits _ _ _) (Prog.Emits.pure _))).bind fun g =>
    (hz (hk (updateHostInstallProgress_kinds _ _ _) (by decide))).bind fun _ =>
    (hz (Prog.Emits.ite (hk (createSingleNodeMasterIgnition_kinds _ _) (by decide))
      ((hk (downloadHostIgnition_kinds _) (by decide)).bind fun _ => Prog.Emits.pure _))).bind
    fun x => (?_ : Prog.AtMost Event.isWrite 3 _)).mono (by decide)
  rcases x with ⟨i', path⟩
  refine ((writeImageToDisk_writes i' path).bind fun _ =>
    (hz (kinds_callUnit (kind_mem .setBootOrder (by rfl) (by decide))).discard).bind fun _ =>
    (hz (Prog.Emits.ite ((hk (updateHostInstallProgress_kinds _ _ _) (by decide)).bind fun _ =>
      (hk (errGroupWait_kinds _) (by decide)).bind fun _ => hk (waitForControlPlane_kinds _ rfl _) (by decide))
      (Prog.Emits.ite (hk (workerWaitFor2ReadyMasters_kinds _ _) (by decide)) (Prog.Emits.pure _)))).bind fun _ =>
    (hz (kinds_notify (hc _ (by rfl)))).bind fun _ =>
    (hz (kinds_callText (kind_mem .uploadLogs (by rfl) (by decide))).discard).bind fun _ =>
    Prog.AtMost.of_emits (Prog.Emits.pure _)).mono (by decide)

end AssistedInstaller
