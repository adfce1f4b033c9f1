import AssistedInstaller.Installer.Replicas

/-
  AssistedInstaller.Installer.EtcdPatch — the etcd patch of `waitForControlPlane`:
  `PatchEtcd`, when `EtcdPatchRequired` says the cluster's version is below 4.7, right after
  `waitForMinMasterNodes` and before the wait for bootkube. Unlike the control-plane
  replicas patch it is never reverted.

  The guard is `Prog.GuardedBy` on `PatchEtcd` events; its condition `EtcdAllowed` asks for no
  earlier `PatchEtcd`, so it also bounds their number (`GuardedBy.countP_le_one`). Before the
  call the walks carry `EtcdPending` (the guard, and no `PatchEtcd` yet), after it the guard
  alone.

  Proved:
  - `installNode_etcd`: over every run of `InstallNode`, `PatchEtcd` is called at most once,
    and only on a bootstrap host outside single node, when `EtcdPatchRequired` returned true
    for the configured version, after `waitForMasterNodes` returned through its predicate
    with at least `minMasterNodes` names counted.
-/

namespace AssistedInstaller

/-- A `PatchEtcd` call. -/
abbrev EtcdGuarded (B : List Event → Prop) : List Event → Prop :=
  Prog.GuardedBy (fun x : Event => x.kind = .patchEtcd) B

/-- The guard, and no `PatchEtcd` yet. -/
def EtcdPending (B : List Event → Prop) (t : List Event) : Prop :=
  EtcdGuarded B t ∧ ∀ x ∈ t, x.kind ≠ .patchEtcd

/-- What a `PatchEtcd` call of `InstallNode` on config `i` needs before it: a bootstrap host
outside single node, `EtcdPatchRequired` true, the masters counted, and no earlier `PatchEtcd`. -/
def EtcdAllowed (env : Env) (i : Config) (pre : List Event) : Prop :=
  i.role = hostRoleBootstrap ∧ i.highAvailabilityMode ≠ clusterHighAvailabilityModeNone ∧
    etcdPatchRequired env i.openshiftVersion = .ok true ∧ (∃ x ∈ pre, MastersReady minMasterNodes x) ∧
    ∀ x ∈ pre, x.kind ≠ .patchEtcd

section
variable {B : List Event → Prop} {env : Env}

theorem etcdPending_kinds {α : Type} {ks : List Kind} (hks : Kind.patchEtcd ∉ ks) {m : Go α} (hm : Kinds ks m) :
    Prog.Triple env (EtcdPending B) m (fun _ => EtcdPending B) fun t _ => EtcdGuarded B t :=
  (Prog.Triple.of_emits hm fun _ x h hx => ⟨h.1.snoc fun he => absurd (he ▸ hx) hks, fun y hy => by
    rcases List.mem_append.mp hy with hy | hy
    · exact h.2 y hy
    · exact List.mem_singleton.mp hy ▸ fun he => hks (he ▸ hx)⟩).conseq
    (fun _ h => h) (fun _ _ h => h) fun _ _ h => h.1

theorem etcdGuarded_kinds {α : Type} {ks : List Kind} (hks : Kind.patchEtcd ∉ ks) {m : Go α} (hm : Kinds ks m) :
    Prog.Triple env (EtcdGuarded B) m (fun _ => EtcdGuarded B) fun t _ => EtcdGuarded B t :=
  Prog.Triple.guardedBy (Prog.Emits.mono hm fun _ hx he => hks (he ▸ hx))

end

/-! ## `waitForControlPlane` -/

section
variable (i : Config) {ctx : Context} (fuel : Nat) (env : Env) {B : List Event → Prop}

/-- The value `etcdPatchRequired` computed. -/
theorem compute_etcdPatchRequired {P : List Event → Prop} :
    Prog.Triple env P (Prog.compute fun env => etcdPatchRequired env i.openshiftVersion)
      (fun patch t => P t ∧ etcdPatchRequired env i.openshiftVersion = .ok patch) fun t _ => P t :=
  (Prog.Triple.of_emits (Prog.Emits.compute _ : Prog.Emits (fun _ : Event => False) _)
    fun _ _ _ hx => hx.elim).add fun t₀ h a _ ha => by
    simp only [Prog.compute_run] at ha
    revert ha
    cases etcdPatchRequired env i.openshiftVersion <;> simp [Out.ofExcept]

theorem waitForControlPlane_etcd (hctx : ctx.done = false)
    (hB : ∀ t, etcdPatchRequired env i.openshiftVersion = .ok true → (∃ x ∈ t, MastersReady minMasterNodes x) →
      (∀ x ∈ t, x.kind ≠ .patchEtcd) → B t) :
    Prog.Triple env (EtcdPending B) (waitForControlPlane i ctx fuel) (fun _ => EtcdGuarded B)
      fun t _ => EtcdGuarded B t := by
  refine (etcdPending_kinds (by decide) (kinds_callUnit (kind_mem_other (by rfl)))).bind fun _ =>
    (etcdPending_kinds (by decide) (kinds_callUnit (kind_mem_other (by rfl)))).bind fun _ =>
    (etcdPending_kinds (by decide) (updateHostInstallProgress_kinds i _ _)).bind fun _ => ?_
  have hmin : Prog.Triple env (EtcdPending B) (waitForMinMasterNodes i ctx fuel)
      (fun _ t => EtcdPending B t ∧ ∃ x ∈ t, MastersReady minMasterNodes x) fun t _ => EtcdGuarded B t :=
    (etcdPending_kinds (by decide) (waitForMinMasterNodes_kinds i hctx fuel)).add fun t₀ h a _ ha =>
      let ⟨x, hx, hm⟩ := waitForMinMasterNodes_shows i hctx fuel env h a ha
      ⟨x, List.mem_append_right _ hx, hm⟩
  refine hmin.bind fun _ => ?_
  refine ((compute_etcdPatchRequired i env).conseq (fun _ h => h) (fun _ _ h => h) fun _ _ h => h.1.1).bind
    fun patch => ?_
  refine (Prog.Triple.pull fun hpatch => Prog.Triple.ite (fun hp => ?_) fun _ =>
    (Prog.Triple.pure ()).conseq (fun _ h => h.1.1) (fun _ _ h => h) fun _ _ h => h).bind fun _ =>
    (etcdGuarded_kinds (by decide) (waitForBootkube_kinds i hctx fuel)).bind fun _ =>
    etcdGuarded_kinds (by decide) (waitForController_kinds i fuel)
  have hg : ∀ t r, (EtcdPending B t ∧ ∃ x ∈ t, MastersReady minMasterNodes x) →
      EtcdGuarded B (t ++ [.call .patchEtcd (.unit r)]) := fun t _ ⟨⟨hg, hn⟩, hm⟩ =>
    hg.snoc fun _ => hB t (hp ▸ hpatch) hm hn
  unfold K8sClient.patchEtcd callUnit
  exact Prog.Triple.query (fun t _ h => hg t _ h) fun t _ h => hg t _ h

end

/-! ## `InstallNode` -/

theorem installNodeSteps_etcd (i : Config) (fuel : Nat) (env : Env) :
    Prog.Triple env (EtcdPending (EtcdAllowed env i)) (installNodeSteps i fuel)
      (fun _ => EtcdGuarded (EtcdAllowed env i)) fun t _ => EtcdGuarded (EtcdAllowed env i) t := by
  refine (etcdPending_kinds (by decide) (updateHostInstallProgress_kinds _ _ _)).bind fun _ =>
    (etcdPending_kinds (by decide) (kinds_callValue (kind_mem_other (by rfl)))).bind fun dev =>
    (etcdPending_kinds (by decide) (cleanupInstallDevice_kinds _)).bind fun _ =>
    (etcdPending_kinds (by decide) (kinds_callUnit (kind_mem_other (by rfl)))).bind fun _ =>
    (etcdPending_kinds (by decide) (Prog.Emits.ite (startBootstrapGoroutines_emits _ _ _) (Prog.Emits.pure _) : Kinds [] _)).bind
      fun g => (etcdPending_kinds (by decide) (updateHostInstallProgress_kinds _ _ _)).bind fun _ =>
    ((etcdPending_kinds (by decide) (Prog.Emits.ite (createSingleNodeMasterIgnition_kinds _ fuel)
      (((downloadHostIgnition_kinds _).mono (by decide : [Kind.other] ⊆ [.progress .waitingForBootkube, .other])).bind
        fun _ => Prog.Emits.pure _))).add_returns (ignitionPath_openshiftVersion _ fuel)).bind fun x => ?_
  rcases x with ⟨i', path⟩
  refine Prog.Triple.pull fun hv => ?_
  have hv : i'.openshiftVersion = i.openshiftVersion := hv
  have hp : ∀ t, EtcdPending (EtcdAllowed env i) t → EtcdGuarded (EtcdAllowed env i) t := fun _ h => h.1
  refine (etcdPending_kinds (by decide) (writeImageToDisk_kinds i' path)).bind fun _ =>
    (etcdPending_kinds (by decide) (kinds_callUnit (kind_mem .setBootOrder (by rfl)
      (List.mem_singleton_self _))).discard).bind fun _ =>
    (Prog.Triple.ite (fun hb => ?_) fun _ => Prog.Triple.ite (fun _ =>
      (etcdPending_kinds (by decide) (workerWaitFor2ReadyMasters_kinds i' fuel)).conseq (fun _ h => h)
        (fun _ _ h => hp _ h) fun _ _ h => h) fun _ =>
      (etcdPending_kinds (by decide) (Prog.Emits.pure _ : Kinds [] _)).conseq (fun _ h => h)
        (fun _ _ h => hp _ h) fun _ _ h => h).bind fun _ =>
    (etcdGuarded_kinds (by decide) (kinds_notify (kind_mem_other (by rfl)))).bind fun _ =>
    (etcdGuarded_kinds (by decide) (kinds_callText (kind_mem .uploadLogs (by rfl)
      (List.mem_singleton_self _))).discard).bind fun _ =>
    etcdGuarded_kinds (by decide) (Prog.Emits.pure _ : Kinds [] _)
  exact (etcdPending_kinds (by decide) (updateHostInstallProgress_kinds _ _ _)).bind fun _ =>
    (etcdPending_kinds (by decide) (errGroupWait_kinds _)).bind fun _ =>
    waitForControlPlane_etcd i' fuel env rfl fun t he hm hn => ⟨hb.1, hb.2, hv ▸ he, hm, hn⟩

theorem installNode_etcd (i : Config) (fuel : Nat) (env : Env) (h : List Event) :
    EtcdGuarded (EtcdAllowed env i) (installNode i fuel env h).2 ∧
      (installNode i fuel env h).2.countP (fun x => decide (x.kind = .patchEtcd)) ≤ 1 := by
  have hg : EtcdGuarded (EtcdAllowed env i) (installNode i fuel env h).2 :=
    ((installNodeSteps_etcd i fuel env).bind fun c => etcdGuarded_kinds (by decide) (finalize_kinds c)).run_of
      ⟨Prog.GuardedBy.nil, fun _ h => nomatch h⟩ h
  exact ⟨hg, Prog.GuardedBy.countP_le_one fun pre x post ht hx => (hg pre x post ht hx).2.2.2.2⟩

end AssistedInstaller
