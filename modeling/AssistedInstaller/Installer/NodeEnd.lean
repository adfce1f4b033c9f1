import AssistedInstaller.Installer.InstallNode

/-
  AssistedInstaller.Installer.NodeEnd — when `InstallNode` ends the node: what has
  happened before its node-terminating call, and what `InstallNode` and `RunInstaller`
  return around it.

  `InstallNode` is `installNodeSteps` followed by `finalize`. Nothing before `finalize`
  terminates the node (`installNodeSteps_kinds`), so a node-terminating call is
  `finalize`'s, and every fact the steps leave in the trace when they return holds
  before it (`installNode_guarded`).

  What follows an event is said with `Prog.HandsOver`: at the event the run goes on as a
  given program, run from the history up to the event. At `bootstrapErrGroup.Wait()` that
  program is `afterErrGroupWait` on the recorded answer; after `SetBootOrder` and after
  `UploadInstallationLogs` it is fixed before the call is made (`afterSetBootOrder`,
  `finalize`), so what the call answers changes nothing but the history.

  Proved:
  (1) `installNode_ends_node_last`: the node-terminating call is made at most once, as
      the last event; only after the device was resolved, cleaned (unless skipped) and
      the install dir made, an ignition file obtained and the image written from it to
      the resolved device (`Prepared`); at most three image writes are attempted; a
      failure before `finalize` is returned as it is with no node-terminating call, and
      so are a failed bootstrap flow, as `Wait()` returns it, and a failed
      `waitForControlPlane` after it; whatever `SetBootOrder` and `UploadInstallationLogs`
      answer, the run goes on the same; `RunInstaller` reports a failure as the last
      stage; nil is returned only when the node-terminating call answered nil.
  (2) `installNode_bootstrap_guarded`: on a bootstrap host the call comes after the
      bootstrap flow returned nil, at least two masters were counted ready, bootkube's
      marker was found and the controller's ready event was listed; no `ctx.Done()`
      branch is ever taken.
  (3) `installNode_worker_guarded`: on a worker the call comes after a poll that let
      the worker through, unless the wait timed out first.
  (4) `installNode_terminal`: in dry run the only node-terminating call is the touch of
      the fake reboot marker; outside it the touch is never made.
  (5) `installNode_logs_uploaded`: on every host the call comes after the log state was
      reported as requested and the installation logs were uploaded, flagged as the
      bootstrap's exactly on the bootstrap host or a single node.
-/

namespace AssistedInstaller

/-! ## Nothing before `finalize` ends the node -/

theorem installNodeSteps_not_terminal (i : Config) (fuel : Nat) :
    Prog.Emits (fun x => ¬x.Terminal) (installNodeSteps i fuel) :=
  Prog.Emits.mono (installNodeSteps_kinds i fuel) fun x hx ht =>
    (by decide : ∀ k ∈ stepKinds, k ∉ terminalKinds) _ hx ht

/-- What the steps before `finalize` leave in the trace when they return holds before every
node-terminating call. -/
theorem installNode_guarded {B : List Event → Prop} (hB : ∀ t t', B t → B (t ++ t')) (i : Config)
    (fuel : Nat) (env : Env) (h : List Event)
    (hs : ∀ c, (installNodeSteps i fuel env h).1 = .ok c → B (installNodeSteps i fuel env h).2) :
    Guarded B (installNode i fuel env h).2 := by
  have hk := installNodeSteps_not_terminal i fuel env h
  rw [installNode, Prog.bind_run]
  rcases hr : installNodeSteps i fuel env h with ⟨c | e | _, t⟩ <;> rw [hr] at hk hs <;> dsimp only
  · exact .append hB hk (hs c rfl)
  all_goals exact fun pre x post ht hx => absurd hx (hk x (ht ▸ by simp))

/-! ## The end of every run -/

/-- A failed step before `finalize` is what `InstallNode` returns, with no node-terminating
call. -/
theorem installNode_step_error (i : Config) (fuel : Nat) (env : Env) (h : List Event) (e : GoError)
    (he : (installNodeSteps i fuel env h).1 = .err e) :
    installNode i fuel env h = (.err e, (installNodeSteps i fuel env h).2) ∧
      ∀ x ∈ (installNodeSteps i fuel env h).2, ¬x.Terminal := by
  refine ⟨?_, installNodeSteps_not_terminal i fuel env h⟩
  rw [installNode, Prog.bind_run]
  rcases hr : installNodeSteps i fuel env h with ⟨c | e' | _, t⟩ <;> rw [hr] at he <;> cases he
  rfl

/-- What every run of `InstallNode` shows of its node-terminating call. -/
structure InstallOutcome (i : Config) (t : List Event) (o : Out Unit) : Prop where
  once : t.countP (fun x => decide x.Terminal) ≤ 1
  terminalLast : TerminalLast t
  prepared : Guarded (Prepared i) t
  writes : t.countP Event.isWrite ≤ 3
  ok : o = .ok () → ∃ pre x, t = pre ++ [x] ∧ x.Terminal ∧ x.error? = none
  error : ∀ e, o = .err e →
    (∀ x ∈ t, ¬x.Terminal) ∨ ∃ pre x, t = pre ++ [x] ∧ x.Terminal ∧ x.error? ≠ none

theorem installNode_outcome (i : Config) (fuel : Nat) : Prog.Sat (installNode i fuel) (InstallOutcome i) :=
  fun env h => by
  have hk := installNodeSteps_not_terminal i fuel env h
  have hp : Guarded (Prepared i) (installNode i fuel env h).2 :=
    installNode_guarded (fun _ _ hp => hp.mono (List.subset_append_left _ _)) i fuel env h fun c hc => by
      simpa [hc] using installNodeSteps_prepared i fuel env [] trivial h
  have hw := (installNodeSteps_writes i fuel).bind (fun c => atMost_write_zero (finalize_kinds c) (by decide)) env h
  rw [installNode, Prog.bind_run] at hp ⊢
  rw [Prog.bind_run] at hw
  rcases hr : installNodeSteps i fuel env h with ⟨c | e | _, t⟩ <;> rw [hr] at hk hp hw <;> dsimp only at hp hw ⊢
  · obtain ⟨r, hro, hf⟩ := finalize_ends c env (h ++ t)
    have hl : TerminalLast (t ++ (finalize c env (h ++ t)).2) := .append hk hf.terminalLast
    refine ⟨hl.countP_le_one, hl, hp, hw, fun ho => ?_, fun e he => ?_⟩
    · obtain ⟨pre, x, ht, hx, hn⟩ := hf.ok (by cases r <;> simp_all [Out.ofExcept])
      exact ⟨t ++ pre, x, by simp [ht], hx, hn⟩
    · rcases hf.error e (by cases r <;> simp_all [Out.ofExcept]) with hn | ⟨pre, x, ht, hx, hn⟩
      · exact .inl fun y hy => (List.mem_append.mp hy).elim (hk y) (hn y)
      · exact .inr ⟨t ++ pre, x, by simp [ht], hx, hn⟩
  all_goals have hl : TerminalLast t := .of_forall hk
  · exact ⟨hl.countP_le_one, hl, hp, hw, (fun h => nomatch h), fun _ _ => .inl hk⟩
  · exact ⟨hl.countP_le_one, hl, hp, hw, (fun h => nomatch h), fun _ h => nomatch h⟩

theorem formatDisks_ok (i : Config) (env : Env) (h : List Event) : (formatDisks i env h).1 = .ok () := by
  unfold formatDisks
  induction i.disksToFormat generalizing h with
  | nil => rfl
  | cons d ds ih =>
    simp only [List.forM_cons', Prog.discard, Ops.formatDisk, callUnit, Prog.bind_run, Prog.attempt,
      Prog.query_run]
    cases env.unit h (.formatDisk d) <;> exact ih _

/-- `RunInstaller` reports a failure of `InstallNode` as its last stage, with the error's text. -/
theorem runInstaller_reports_failure (i : Config) (fuel : Nat) :
    Prog.Sat (runInstaller i fuel) fun t o => ∀ e, o = .err e →
      ∃ pre sent, t = pre ++ [.progress .failed e.msg sent] := fun env h => by
  have hf := formatDisks_ok i env h
  simp only [runInstaller, Prog.bind_run]
  rcases hr : formatDisks i env h with ⟨_ | e | _, t⟩ <;> rw [hr] at hf <;> cases hf
  simp only [Prog.attempt]
  rcases installNode i fuel env (h ++ t) with ⟨⟨⟩ | e | _, t'⟩ <;> simp [updateHostInstallProgress, Prog.bind_run]
  exact ⟨t ++ t', _, (List.append_assoc _ _ _).symm⟩

/-! ## What follows the wait, the boot order and the log upload -/

/-- What `bootstrapErrGroup.Wait()`'s recorded answer leaves to the rest of `InstallNode`: its
error is returned. -/
def waitOutcome : Event → Go Unit
  | .errGroupWait (.error e) => Prog.throw e
  | _ => pure ()

/-- `InstallNode` on the bootstrap host after `bootstrapErrGroup.Wait()` answered `x`. -/
def afterErrGroupWait (i : Config) (fuel : Nat) (x : Event) : Go Unit := do
  waitOutcome x
  waitForControlPlane i ⟨false⟩ fuel
  InventoryClient.hostLogProgressReport i.infraEnvID i.hostID logsStateRequested
  Prog.discard (Ops.uploadInstallationLogs true)
  finalize i

/-- The config `InstallNode` holds from its ignition step on: the device resolved to `device`,
the role rewritten to master on the bootstrap host, then on a single node. -/
def installConfig (i : Config) (device : String) : Config :=
  let i := { i with device, role := if i.role = hostRoleBootstrap ∧
    i.highAvailabilityMode ≠ clusterHighAvailabilityModeNone then hostRoleMaster else i.role }
  { i with role := if i.highAvailabilityMode = clusterHighAvailabilityModeNone then hostRoleMaster else i.role }

/-- What `bootstrapErrGroup.Wait()` returns in a run of `InstallNode` on `i`: the outcome of the
bootstrap flow started on the resolved `device` from the history `h₀`; nil off the bootstrap
host. -/
def bootstrapOutcome (i : Config) (device : String) (env : Env) (h₀ : List Event) : Out Unit :=
  if i.role = hostRoleBootstrap ∧ i.highAvailabilityMode ≠ clusterHighAvailabilityModeNone then
    (startBootstrap { i with device } env h₀).1
  else .ok ()

/-- `InstallNode` after `SetBootOrder(device)`, given how `bootstrapErrGroup` ended. -/
def afterSetBootOrder (i : Config) (fuel : Nat) (bootstrapErrGroup : Out Unit) (device : String) :
    Go Unit := do
  let i ← installNodeAfterBootOrder (installConfig i device)
    (i.role = hostRoleBootstrap ∧ i.highAvailabilityMode ≠ clusterHighAvailabilityModeNone)
    bootstrapErrGroup ⟨false⟩ fuel
  finalize i

/-- What `InstallNode` runs after its `SetBootOrder` call `x`: `afterSetBootOrder` on the device
the call named and on the outcome of the bootstrap flow started before it, whatever the call
answered. -/
def SetBootOrderRest (i : Config) (fuel : Nat) (env : Env) (hist : List Event) (x : Event) (k : Go Unit) :
    Prop :=
  ∃ device r h₀, x = .call (.setBootOrder device) (.unit r) ∧ h₀ <+: hist ∧
    k = afterSetBootOrder i fuel (bootstrapOutcome i device env h₀) device

@[simp] theorem waitForControlPlane_installConfig (i : Config) (device : String) (ctx : Context) (fuel : Nat) :
    waitForControlPlane (installConfig i device) ctx fuel = waitForControlPlane i ctx fuel := rfl

@[simp] theorem finalize_installConfig (i : Config) (device : String) :
    finalize (installConfig i device) = finalize i := rfl

theorem errGroupWait_handsOver {β : Type} (g : Out Unit) {f : Unit → Go β}
    (hf : Prog.Emits (fun x => ¬x.kind = .errGroupWait) (f ())) :
    Prog.HandsOver (fun x => x.kind = .errGroupWait) (fun _ _ x k => k = waitOutcome x >>= f)
      (errGroupWait g >>= f) := by
  rcases g with ⟨⟩ | e | _
  · exact (Prog.HandsOver.emit_bind hf).mono fun _ _ _ _ ⟨hx, hk⟩ => by rw [hx, hk]; exact (Prog.pure_bind _ _).symm
  · show Prog.HandsOver _ _ ((Prog.emit _ >>= fun _ => Prog.throw e) >>= f)
    rw [Prog.bind_assoc]
    exact (Prog.HandsOver.emit_bind (Prog.Emits.throw e)).mono fun _ _ _ _ ⟨hx, hk⟩ => by rw [hx, hk]; rfl
  · exact .of_emits Prog.Emits.stall

/-- The ignition step returns `installConfig`. -/
theorem ignitionStep_config (c : Config) (fuel : Nat) :
    Prog.Returns (fun (a : Config × String) _ => a.1 = { c with role :=
      if c.highAvailabilityMode = clusterHighAvailabilityModeNone then hostRoleMaster else c.role })
      (if c.highAvailabilityMode = clusterHighAvailabilityModeNone then createSingleNodeMasterIgnition c fuel
        else do
          let ignitionPath ← downloadHostIgnition c
          pure (c, ignitionPath)) :=
  Prog.Returns.ite (fun h => (createSingleNodeMasterIgnition_returns c fuel).mono fun _ _ ⟨ha, _⟩ => by
      rw [ha, if_pos h])
    fun h => (Prog.Returns.any.bind fun _ => Prog.Returns.pure _).mono fun _ _ ⟨_, _, _, _, _, ha, _⟩ => by
      rw [ha, if_neg h]

theorem bootstrapGroup_run (i : Config) (device : String) (fuel : Nat) (env : Env) (h₀ : List Event) :
    (if i.role = hostRoleBootstrap ∧ i.highAvailabilityMode ≠ clusterHighAvailabilityModeNone then
      startBootstrapGoroutines { i with device } ⟨false⟩ fuel else pure (.ok ()) : Go (Out Unit)) env h₀ =
      (.ok (bootstrapOutcome i device env h₀), []) := by
  unfold bootstrapOutcome
  by_cases hb : i.role = hostRoleBootstrap ∧ i.highAvailabilityMode ≠ clusterHighAvailabilityModeNone
  · simp only [if_pos hb]; rfl
  · simp only [if_neg hb]; rfl

/-- `InstallNode` hands its run over at an event of kind `k` that the steps before the image
write never record as the part from the image write on does, on the config `installConfig` and
the bootstrap flow's outcome started from a history before the event. -/
theorem installNodeSteps_handsOver {k : Kind} {K : String → Out Unit → Env → List Event → Event → Go Config → Prop}
    (i : Config) (fuel : Nat)
    (hk : k ∉ [.other, .progress .startingInstallation, .progress .installing, .progress .waitingForBootkube])
    (hrest : ∀ device g path, Prog.HandsOver (fun x => x.kind = k) (K device g) (do
      writeImageToDisk (installConfig i device) path
      Prog.discard (Ops.setBootOrder device)
      installNodeAfterBootOrder (installConfig i device)
        (i.role = hostRoleBootstrap ∧ i.highAvailabilityMode ≠ clusterHighAvailabilityModeNone) g ⟨false⟩ fuel)) :
    Prog.HandsOver (fun x => x.kind = k)
      (fun env hist x k' => ∃ device h₀, h₀ <+: hist ∧ K device (bootstrapOutcome i device env h₀) env hist x k')
      (installNodeSteps i fuel) := by
  have ho : ∀ {α : Type} {m : Go α}, Kinds [.other] m → Prog.Emits (fun x => ¬x.kind = k) m :=
    fun hm => (hm.mono (by decide)).avoids hk
  have hp : ∀ (c : Config) st info,
      .progress st ∈ [Kind.other, .progress .startingInstallation, .progress .installing, .progress .waitingForBootkube] →
      Prog.Emits (fun x => ¬x.kind = k) (updateHostInstallProgress c st info) :=
    fun _ _ _ hs => ((updateHostInstallProgress_kinds _ _ _).mono (List.cons_subset.mpr ⟨hs, List.nil_subset _⟩)).avoids hk
  unfold installNodeSteps
  refine Prog.HandsOver.bind_after (hp _ _ _ (by decide)) fun _ => (Prog.HandsOver.bind_right
    (K := fun device env hist x k' => ∃ h₀, h₀ <+: hist ∧ K device (bootstrapOutcome i device env h₀) env hist x k')
    (ho (kinds_callValue (kind_mem_other (by rfl)))) fun device => ?_).mono
      fun _ _ _ _ ⟨device, _, _, _, _, hK⟩ => ⟨device, hK⟩
  refine Prog.HandsOver.bind_after (ho (cleanupInstallDevice_kinds _)) fun _ =>
    Prog.HandsOver.bind_after (ho (kinds_callUnit (kind_mem_other (by rfl)))) fun _ =>
    (Prog.HandsOver.bind_right (K := fun g => K device g)
      (Prog.Emits.ite (startBootstrapGoroutines_emits _ _ _) (Prog.Emits.pure _)) fun g => ?_).mono
      fun env _ _ _ ⟨g, h₀, t, hr, hpre, hK⟩ => ?_
  · refine Prog.HandsOver.bind_after (hp _ _ _ (by decide)) fun _ =>
      Prog.HandsOver.bind_of_returns (Prog.Emits.ite ((createSingleNodeMasterIgnition_kinds _ _).mono
        (by decide) |>.avoids hk) ((ho (downloadHostIgnition_kinds _)).bind fun _ => Prog.Emits.pure _))
        (ignitionStep_config _ fuel) fun a ha => ?_
    rcases a with ⟨c, path⟩
    obtain rfl : c = installConfig i device := ha
    exact hrest device g path
  · have hg := hr.symm.trans (bootstrapGroup_run i device fuel env h₀)
    simp only [Prod.mk.injEq, Out.ok.injEq] at hg
    obtain ⟨rfl, rfl⟩ := hg
    exact ⟨h₀, List.IsPrefix.trans (by simp) hpre, hK⟩

/-- The role's wait of `InstallNode` records no log upload. -/
theorem roleWait_no_upload (c : Config) (isBootstrap : Prop) [Decidable isBootstrap] (g : Out Unit) (fuel : Nat) :
    Prog.Emits (fun x => ¬x.kind = .uploadLogs) (if isBootstrap then do
      updateHostInstallProgress c .waitingForControlPlane waitingForBootstrapToPrepare
      errGroupWait g
      waitForControlPlane c ⟨false⟩ fuel
    else if c.role = hostRoleWorker then workerWaitFor2ReadyMasters c fuel else pure ()) :=
  Prog.Emits.ite (((updateHostInstallProgress_kinds _ _ _).avoids (by decide)).bind fun _ =>
      ((errGroupWait_kinds _).avoids (by decide)).bind fun _ => (waitForControlPlane_kinds _ rfl _).avoids (by decide))
    (Prog.Emits.ite ((workerWaitFor2ReadyMasters_kinds _ _).avoids (by decide)) (Prog.Emits.pure _))

/-- `InstallNode` hands over at the wait or the upload as its part after `SetBootOrder` does,
followed by `finalize`. -/
theorem installNode_handsOver_after {k : Kind} {K : String → Out Unit → Env → List Event → Event → Go Config → Prop}
    {K' : Env → List Event → Event → Go Unit → Prop} (i : Config) (fuel : Nat)
    (hk : k = .errGroupWait ∨ k = .uploadLogs)
    (hrest : ∀ device g, Prog.HandsOver (fun x => x.kind = k) (K device g)
      (installNodeAfterBootOrder (installConfig i device)
        (i.role = hostRoleBootstrap ∧ i.highAvailabilityMode ≠ clusterHighAvailabilityModeNone) g ⟨false⟩ fuel))
    (hK : ∀ device g env hist x k'', K device g env hist x k'' → K' env hist x (k'' >>= finalize)) :
    Prog.HandsOver (fun x => x.kind = k) K' (installNode i fuel) := by
  have hout : ∀ {ks : List Kind}, Kind.errGroupWait ∉ ks → Kind.uploadLogs ∉ ks → k ∉ ks := fun h₁ h₂ => by
    rcases hk with rfl | rfl
    exacts [h₁, h₂]
  refine (Prog.HandsOver.bind_left (installNodeSteps_handsOver i fuel (hout (by decide) (by decide))
      fun device g _ =>
      Prog.HandsOver.bind_after ((writeImageToDisk_kinds _ _).avoids (hout (by decide) (by decide))) fun _ =>
      Prog.HandsOver.bind_after (Kinds.avoids (kinds_callUnit (kind_mem .setBootOrder (by rfl)
        (List.mem_singleton_self _))).discard (hout (by decide) (by decide))) fun _ => hrest device g)
    fun c => (finalize_kinds c).avoids (hout (by decide) (by decide))).mono ?_
  rintro _ _ _ _ ⟨_, ⟨_, _, _, hk⟩, rfl⟩
  exact hK _ _ _ _ _ _ hk

theorem installNodeAfterBootOrder_handsOver_wait (i : Config) (fuel : Nat) (device : String) (g : Out Unit) :
    Prog.HandsOver (fun x => x.kind = .errGroupWait) (fun _ _ x k => (k >>= finalize) = afterErrGroupWait i fuel x)
      (installNodeAfterBootOrder (installConfig i device)
        (i.role = hostRoleBootstrap ∧ i.highAvailabilityMode ≠ clusterHighAvailabilityModeNone) g ⟨false⟩ fuel) := by
  have hw : Prog.Emits (fun x => ¬x.kind = .errGroupWait) (waitForControlPlane (installConfig i device) ⟨false⟩ fuel) :=
    (waitForControlPlane_kinds _ rfl _).avoids (by decide)
  unfold installNodeAfterBootOrder
  refine (Prog.HandsOver.bind_left (K := fun _ _ x k =>
      (i.role = hostRoleBootstrap ∧ i.highAvailabilityMode ≠ clusterHighAvailabilityModeNone) ∧
        k = waitOutcome x >>= fun _ => waitForControlPlane (installConfig i device) ⟨false⟩ fuel)
    (Prog.HandsOver.ite (fun hb => (Prog.HandsOver.bind_after
      ((updateHostInstallProgress_kinds _ _ _).avoids (by decide)) fun _ => errGroupWait_handsOver g hw).mono
        fun _ _ _ _ hk => ⟨hb, hk⟩)
      fun _ => .of_emits (Prog.Emits.ite ((workerWaitFor2ReadyMasters_kinds _ _).avoids (by decide))
        (Prog.Emits.pure _)))
    fun _ => Kinds.avoids ((kinds_notify (kind_mem .other (by rfl) (by decide))).bind fun _ =>
      (kinds_callText (kind_mem .uploadLogs (by rfl) (by decide))).discard.bind fun _ => Prog.Emits.pure _ :
        Kinds [.other, .uploadLogs] _) (by decide)).mono ?_
  rintro _ _ x _ ⟨_, ⟨hb, rfl⟩, rfl⟩
  simp only [Prog.bind_assoc, Prog.pure_bind, decide_eq_true hb, Bool.true_or, waitForControlPlane_installConfig,
    finalize_installConfig]
  rfl

/-- On the bootstrap host the run after `bootstrapErrGroup.Wait()` is `afterErrGroupWait` on its
answer: its error is returned, and after nil comes `waitForControlPlane`. -/
theorem installNode_handsOver_wait (i : Config) (fuel : Nat) :
    Prog.HandsOver (fun x => x.kind = .errGroupWait) (fun _ _ x k => k = afterErrGroupWait i fuel x)
      (installNode i fuel) :=
  installNode_handsOver_after i fuel (.inl rfl) (installNodeAfterBootOrder_handsOver_wait i fuel)
    fun _ _ _ _ _ _ hk => hk

/-- A failed bootstrap flow, as `bootstrapErrGroup.Wait()` returns it, is what `InstallNode`
returns, and nothing follows the wait. -/
theorem installNode_errGroupWait_error (i : Config) (fuel : Nat) (env : Env) (h pre : List Event) (e : GoError)
    (post : List Event) (ht : (installNode i fuel env h).2 = pre ++ .errGroupWait (.error e) :: post) :
    (installNode i fuel env h).1 = .err e ∧ post = [] ∧ ∀ y ∈ (installNode i fuel env h).2, ¬y.Terminal := by
  obtain ⟨_, rfl, h₁, h₂⟩ := installNode_handsOver_wait i fuel env h pre _ post ht rfl
  have h₂ : post = [] := h₂
  have hl := (installNode_outcome i fuel env h).terminalLast
  rw [ht] at hl ⊢
  exact ⟨h₁, h₂, hl.none_of_tail (show Kind.errGroupWait ∉ terminalKinds by decide) (by simp [h₂])⟩

/-- After `bootstrapErrGroup.Wait()` returned nil, a failed `waitForControlPlane` is what
`InstallNode` returns, and its events are the last ones. -/
theorem installNode_waitForControlPlane_error (i : Config) (fuel : Nat) (env : Env) (h pre post : List Event)
    (e : GoError) (ht : (installNode i fuel env h).2 = pre ++ .errGroupWait (.ok ()) :: post)
    (he : (waitForControlPlane i ⟨false⟩ fuel env (h ++ pre ++ [.errGroupWait (.ok ())])).1 = .err e) :
    (installNode i fuel env h).1 = .err e ∧
      post = (waitForControlPlane i ⟨false⟩ fuel env (h ++ pre ++ [.errGroupWait (.ok ())])).2 ∧
      ∀ y ∈ (installNode i fuel env h).2, ¬y.Terminal := by
  have hk := waitForControlPlane_kinds i rfl fuel env (h ++ pre ++ [.errGroupWait (.ok ())])
  have hl := (installNode_outcome i fuel env h).terminalLast
  obtain ⟨_, rfl, h₁, h₂⟩ := installNode_handsOver_wait i fuel env h pre _ post ht rfl
  simp only [afterErrGroupWait, waitOutcome, Prog.pure_bind] at h₁ h₂
  rw [Prog.bind_run] at h₁ h₂
  rw [ht] at hl ⊢
  generalize waitForControlPlane i ⟨false⟩ fuel env (h ++ pre ++ [.errGroupWait (.ok ())]) = w at he h₁ h₂ hk ⊢
  rcases w with ⟨_ | _ | _, t⟩ <;> cases he
  have h₂ : post = t := by simpa using h₂
  subst h₂
  exact ⟨h₁, rfl, hl.none_of_tail (show Kind.errGroupWait ∉ terminalKinds by decide) fun y hy =>
    (by decide : ∀ k ∈ controlPlaneKinds, k ∉ terminalKinds) _ (hk y hy)⟩

theorem installNodeAfterBootOrder_handsOver_upload (c : Config) (isBootstrap : Prop) [Decidable isBootstrap]
    (g : Out Unit) (fuel : Nat) :
    Prog.HandsOver (fun x => x.kind = .uploadLogs) (fun _ _ _ k => k = pure c)
      (installNodeAfterBootOrder c isBootstrap g ⟨false⟩ fuel) := by
  unfold installNodeAfterBootOrder Ops.uploadInstallationLogs callText
  exact Prog.HandsOver.bind_after (roleWait_no_upload c isBootstrap g fuel) fun _ =>
    Prog.HandsOver.bind_after ((kinds_notify (kind_mem_other (by rfl))).avoids (by decide)) fun _ =>
    (Prog.HandsOver.discard_query (f := fun _ => pure c) (Prog.Emits.pure _)).mono fun _ _ _ _ ⟨_, hk⟩ => hk

/-- Whatever `UploadInstallationLogs` answers, `InstallNode` goes on with `finalize`. -/
theorem installNode_handsOver_upload (i : Config) (fuel : Nat) :
    Prog.HandsOver (fun x => x.kind = .uploadLogs) (fun _ _ _ k => k = finalize i) (installNode i fuel) :=
  installNode_handsOver_after i fuel (.inr rfl)
    (fun device g => installNodeAfterBootOrder_handsOver_upload (installConfig i device) _ g fuel)
    fun _ _ _ _ _ _ hk => by rw [hk, Prog.pure_bind, finalize_installConfig]

/-- Whatever `SetBootOrder` answers, `InstallNode` goes on with `afterSetBootOrder`. -/
theorem installNode_handsOver_setBootOrder (i : Config) (fuel : Nat) :
    Prog.HandsOver (fun x => x.kind = .setBootOrder) (SetBootOrderRest i fuel) (installNode i fuel) :=
  (Prog.HandsOver.bind_left (installNodeSteps_handsOver (K := fun device g env hist x k =>
      x = .call (.setBootOrder device) (.unit (env.unit hist (.setBootOrder device))) ∧
        k = installNodeAfterBootOrder (installConfig i device)
          (i.role = hostRoleBootstrap ∧ i.highAvailabilityMode ≠ clusterHighAvailabilityModeNone) g ⟨false⟩ fuel)
      i fuel (by decide) fun _ _ _ =>
      Prog.HandsOver.bind_after ((writeImageToDisk_kinds _ _).avoids (by decide)) fun _ => by
        unfold Ops.setBootOrder callUnit
        exact Prog.HandsOver.discard_query (Kinds.avoids (installNodeAfterBootOrder_kinds _ _ _ _) (by decide)))
    fun c => (finalize_kinds c).avoids (by decide)).mono
    fun _ _ _ _ ⟨_, ⟨device, h₀, hp, hx, hk⟩, hk'⟩ => ⟨device, _, h₀, hx, hp, by rw [hk', hk]; rfl⟩

/-- The ignition step of `InstallNode` goes on with the config it was given, at most with
another role. -/
theorem ignitionPath_config (i : Config) (fuel : Nat) :
    Prog.Returns (fun (a : Config × String) _ => ∃ role, a.1 = { i with role := role })
      (if i.highAvailabilityMode = clusterHighAvailabilityModeNone then createSingleNodeMasterIgnition i fuel
        else do
          let ignitionPath ← downloadHostIgnition i
          pure (i, ignitionPath)) :=
  Prog.Returns.ite (fun _ => (createSingleNodeMasterIgnition_returns i fuel).mono fun _ _ ⟨ha, _⟩ =>
    ⟨hostRoleMaster, by rw [ha]⟩)
    fun _ => (Prog.Returns.any.bind fun _ => Prog.Returns.pure _).mono fun _ _ ⟨_, _, _, _, _, ha, _⟩ =>
      ⟨i.role, by rw [ha]⟩

/-- The config `InstallNode` hands to `finalize`: the given one with its role and device
rewritten. -/
theorem installNodeSteps_config (i : Config) (fuel : Nat) :
    Prog.Returns (fun c _ => ∃ role device, c = { i with role := role, device := device })
      (installNodeSteps i fuel) := by
  refine Prog.Returns.bind_value fun _ => Prog.Returns.bind_value fun dev => Prog.Returns.bind_value fun _ =>
    Prog.Returns.bind_value fun _ => Prog.Returns.bind_value fun _ => Prog.Returns.bind_value fun _ =>
    Prog.Returns.bind_of_returns (ignitionPath_config _ fuel) fun x hx => ?_
  rcases x with ⟨i', path⟩
  obtain ⟨role, rfl⟩ := hx
  exact Prog.Returns.bind_value fun _ => Prog.Returns.bind_value fun _ => Prog.Returns.bind_value fun _ =>
    Prog.Returns.bind_value fun _ => Prog.Returns.bind_value fun _ =>
    (Prog.Returns.pure _).mono fun _ _ ⟨h, _⟩ => ⟨role, dev, h ▸ rfl⟩

/-- The node-terminating call a run on `i` may make: in dry run the touch of the fake reboot
marker, otherwise `Reboot` or stopping the agent. -/
def TerminalFor (i : Config) (x : Event) : Prop :=
  if i.dryRunEnabled then ∃ r, x = .call (.execPrivilegeCommand "touch" [i.fakeRebootMarkerPath]) (.text r)
  else x.kind = .reboot ∨ x.kind = .stopAgent

theorem finalize_terminal (i : Config) : Prog.Emits (fun x => x.Terminal → TerminalFor i x) (finalize i) := by
  have hno : ∀ {α : Type} {m : Go α}, Kinds [.other] m → Prog.Emits (fun x => x.Terminal → TerminalFor i x) m :=
    fun hm => Prog.Emits.mono hm fun x hx ht => absurd ht (by simp_all [Event.Terminal, terminalKinds])
  unfold finalize
  refine (Prog.Emits.mono (updateHostInstallProgress_kinds i _ _) fun x hx ht =>
    absurd ht (by simp_all [Event.Terminal, terminalKinds])).bind fun _ => ?_
  unfold Ops.execPrivilegeCommand Ops.systemctlAction Ops.reboot callText callUnit
  split
  · refine (Prog.Emits.attempt (Prog.Emits.query fun r _ => ?_)).bind fun r => ?_
    · simp only [TerminalFor, ‹i.dryRunEnabled = true›, if_true]
      exact ⟨r, rfl⟩
    · cases r
      exacts [Prog.Emits.throw _, Prog.Emits.pure _]
  · have hk : ∀ x, x.kind = .reboot ∨ x.kind = .stopAgent → x.Terminal → TerminalFor i x := fun x hx _ => by
      simp only [TerminalFor, ‹¬i.dryRunEnabled = true›, if_false]
      exact hx
    exact (hno (kinds_callText (kind_mem_other (by rfl)))).bind fun _ => Prog.Emits.ite
      (Prog.Emits.query fun _ => hk _ (.inr rfl)) (Prog.Emits.query fun _ => hk _ (.inl rfl))

/-- In dry run `InstallNode` never reboots the node or stops its agent: its only node-terminating
call is the touch of the fake reboot marker; outside dry run it never touches it. -/
theorem installNode_terminal (i : Config) (fuel : Nat) :
    Prog.Emits (fun x => x.Terminal → TerminalFor i x) (installNode i fuel) :=
  Prog.Emits.bind_of_returns (Prog.Emits.mono (installNodeSteps_not_terminal i fuel) fun _ h ht => absurd ht h)
    (installNodeSteps_config i fuel) fun _ ⟨_, _, hc⟩ => hc ▸ finalize_terminal _

/-! ## Which events -/

def finalizeKinds : List Kind := [.progress .rebooting, .other, .reboot, .stopAgent, .touch]

theorem installNode_kinds (i : Config) (fuel : Nat) :
    Kinds (stepKinds ++ finalizeKinds) (installNode i fuel) :=
  (Kinds.widen _ (installNodeSteps_kinds i fuel) (List.subset_append_left _ _)).bind fun c =>
    Kinds.widen _ (finalize_kinds c) (List.subset_append_right _ _)

/-- `InstallNode`'s context is never cancelled while it runs: no wait returns through
`ctx.Done()`. -/
theorem installNode_no_ctxDone (i : Config) (fuel : Nat) (env : Env) (h : List Event) :
    Event.ctxDone ∉ (installNode i fuel env h).2 := fun hx =>
  absurd (installNode_kinds i fuel env h _ hx) (by decide)

/-! ## The bootstrap host -/

theorem errGroupWait_shows (g : Out Unit) :
    Prog.Shows (fun _ x => x = .errGroupWait (.ok ())) (errGroupWait g) := by
  rcases g with ⟨⟩ | e | _
  · exact Prog.Shows.emit fun _ => rfl
  · exact Prog.Shows.bind_right fun _ => Prog.Shows.throw _
  · exact fun _ _ _ h => nomatch h

/-- On a bootstrap host `InstallNode` returns from its steps only through the bootstrap
branch's waits. -/
theorem installNodeSteps_shows_bootstrap {Q : Env → Event → Prop} (i : Config) (fuel : Nat)
    (hb : i.role = hostRoleBootstrap ∧ i.highAvailabilityMode ≠ clusterHighAvailabilityModeNone)
    (hQ : ∀ i' g, Prog.Shows Q (do
      updateHostInstallProgress i' .waitingForControlPlane waitingForBootstrapToPrepare
      errGroupWait g
      waitForControlPlane i' ⟨false⟩ fuel)) :
    Prog.Shows Q (installNodeSteps i fuel) := by
  refine Prog.Shows.bind_right fun _ => Prog.Shows.bind_right fun _ => Prog.Shows.bind_right fun _ =>
    Prog.Shows.bind_right fun _ => Prog.Shows.bind_right fun _ => Prog.Shows.bind_right fun _ =>
    Prog.Shows.bind_right fun x => ?_
  rcases x with ⟨i', path⟩
  exact Prog.Shows.bind_right fun _ => Prog.Shows.bind_right fun _ =>
    Prog.Shows.bind_left (Prog.Shows.ite (fun _ => hQ _ _) fun hn => absurd hb hn)

/-- What the bootstrap host has seen before its node-terminating call: the bootstrap flow
returned nil, at least `minMasterNodes` masters were counted ready, bootkube's marker was
found, and the controller's ready event was listed. -/
def BootstrapReady (env : Env) (t : List Event) : Prop :=
  Event.errGroupWait (.ok ()) ∈ t ∧ (∃ x ∈ t, MastersReady minMasterNodes x) ∧
    (∃ x ∈ t, BootkubeDone x) ∧ ∃ x ∈ t, ControllerReady env.assistedControllerIsReadyEvent x

theorem installNode_bootstrap_guarded (i : Config) (hrole : i.role = hostRoleBootstrap)
    (hha : i.highAvailabilityMode ≠ clusterHighAvailabilityModeNone) (fuel : Nat) (env : Env) (h : List Event) :
    Guarded (BootstrapReady env) (installNode i fuel env h).2 ∧ Event.ctxDone ∉ (installNode i fuel env h).2 := by
  have hb : i.role = hostRoleBootstrap ∧ i.highAvailabilityMode ≠ clusterHighAvailabilityModeNone := ⟨hrole, hha⟩
  have h₁ := installNodeSteps_shows_bootstrap i fuel hb fun _ g =>
    Prog.Shows.bind_right fun _ => Prog.Shows.bind_left (errGroupWait_shows g)
  have h₂ := installNodeSteps_shows_bootstrap i fuel hb fun i' _ =>
    Prog.Shows.bind_right fun _ => Prog.Shows.bind_right fun _ => waitForControlPlane_shows_masters i' rfl fuel
  have h₃ := installNodeSteps_shows_bootstrap i fuel hb fun i' _ =>
    Prog.Shows.bind_right fun _ => Prog.Shows.bind_right fun _ => waitForControlPlane_shows_bootkube i' rfl fuel
  have h₄ := installNodeSteps_shows_bootstrap i fuel hb fun i' _ =>
    Prog.Shows.bind_right fun _ => Prog.Shows.bind_right fun _ => waitForControlPlane_shows_controller i' _ fuel
  refine ⟨installNode_guarded ?_ i fuel env h fun c hc => ?_, installNode_no_ctxDone i fuel env h⟩
  · intro t t' ⟨hg, ⟨x₂, hx₂, hm⟩, ⟨x₃, hx₃, hk⟩, ⟨x₄, hx₄, hc⟩⟩
    exact ⟨List.mem_append_left _ hg, ⟨x₂, List.mem_append_left _ hx₂, hm⟩, ⟨x₃, List.mem_append_left _ hx₃, hk⟩,
      ⟨x₄, List.mem_append_left _ hx₄, hc⟩⟩
  · obtain ⟨_, hx, rfl⟩ := h₁ env h c hc
    exact ⟨hx, h₂ env h c hc, h₃ env h c hc, h₄ env h c hc⟩

/-- A run that returns nil has made its node-terminating call. -/
theorem installNode_terminal_of_ok {i : Config} {fuel : Nat} {env : Env} {h : List Event}
    (ho : (installNode i fuel env h).1 = .ok ()) : ∃ x ∈ (installNode i fuel env h).2, x.Terminal := by
  obtain ⟨pre, x, ht, hx, -⟩ := (installNode_outcome i fuel env h).ok ho
  exact ⟨x, by simp [ht], hx⟩

/-- `twoMastersEnv` where the version parses and the controller's ready event is listed. -/
def readyEnv : Env := { twoMastersEnv with
  newVersion := fun _ => .ok ⟨[4, 6], ""⟩
  events := fun _ _ => .ok [⟨"AssistedControllerIsReady"⟩] }

/-- On `readyEnv` the bootstrap host gets through to `finalize`, whose reboot answers nil. The
run is evaluated step by step: each step's outcome does not depend on the history. -/
theorem readyEnv_installNode_ok : (installNode bootstrapConfig 3 readyEnv []).1 = .ok () := by
  have hb : bootstrapConfig.role = hostRoleBootstrap ∧
      bootstrapConfig.highAvailabilityMode ≠ clusterHighAvailabilityModeNone := by decide
  have hu : ∀ i st info h, (updateHostInstallProgress i st info readyEnv h).1 = .ok () := fun _ _ _ _ => rfl
  have he : ∀ d h, (Ops.evaluateDiskSymlink d readyEnv h).1 = .ok "" := fun _ _ => rfl
  have hc : ∀ h, (cleanupInstallDevice { bootstrapConfig with device := "" } readyEnv h).1 = .ok () :=
    fun _ => rfl
  have hm : ∀ d h, (Ops.mkdir d readyEnv h).1 = .ok () := fun _ _ => rfl
  have hs : ∀ h, (startBootstrap { bootstrapConfig with device := "" } readyEnv h).1 = .ok () := fun _ => rfl
  have hd : ∀ c h, (downloadHostIgnition c readyEnv h).1 =
      .ok (readyEnv.filepathJoin installDir (c.role ++ "-" ++ c.hostID ++ ".ign")) := fun _ _ => rfl
  have hw : ∀ c p h, (writeImageToDisk c p readyEnv h).1 = .ok () := fun _ _ _ => rfl
  have hsb : ∀ d h, (Prog.discard (Ops.setBootOrder d) readyEnv h).1 = .ok () := fun _ _ => rfl
  have hg : ∀ h, (errGroupWait (.ok ()) readyEnv h).1 = .ok () := fun _ => rfl
  have hcp : ∀ d r h, (waitForControlPlane { bootstrapConfig with device := d, role := r } ⟨false⟩ 3 readyEnv h).1 =
      .ok () := fun _ _ _ => rfl
  have hr : ∀ a b c h, (InventoryClient.hostLogProgressReport a b c readyEnv h).1 = .ok () := fun _ _ _ _ => rfl
  have hl : ∀ b h, (Prog.discard (Ops.uploadInstallationLogs b) readyEnv h).1 = .ok () := fun _ _ => rfl
  have hf : ∀ d r h, (finalize { bootstrapConfig with device := d, role := r } readyEnv h).1 = .ok () :=
    fun _ _ _ => rfl
  simp only [installNode, installNodeSteps, installNodeAfterBootOrder, Prog.bind_run_fst, Prog.pure_run,
    startBootstrapGoroutines_run, if_pos hb, if_neg hb.2, hu, he, hc, hm, hs, hd, hw, hsb, hg, hcp, hr, hl, hf]

theorem bootstrapConfig_installNode_guarded :
    bootstrapConfig.role = hostRoleBootstrap ∧
      bootstrapConfig.highAvailabilityMode ≠ clusterHighAvailabilityModeNone ∧
      (∃ x ∈ (installNode bootstrapConfig 3 readyEnv []).2, x.Terminal) ∧
      Guarded (BootstrapReady readyEnv) (installNode bootstrapConfig 3 readyEnv []).2 ∧
      Event.ctxDone ∉ (installNode bootstrapConfig 3 readyEnv []).2 :=
  ⟨rfl, by decide, installNode_terminal_of_ok readyEnv_installNode_ok,
    installNode_bootstrap_guarded bootstrapConfig rfl (by decide) 3 readyEnv []⟩

/-! ## The worker -/

theorem workerWaitFor2ReadyMasters_shows (i : Config) (fuel : Nat) :
    Prog.Shows (fun _ x => WorkerMayReboot x ∨ x = .timedOut) (workerWaitFor2ReadyMasters i fuel) :=
  fun env h _ ho => by
    rcases workerWaitFor2ReadyMasters_sat i fuel env h ho with ⟨x, hx, hw⟩ | ht
    exacts [⟨x, hx, .inl hw⟩, ⟨_, ht, .inr rfl⟩]

/-- On a worker `InstallNode` returns from its steps only through the wait for two ready
masters. -/
theorem installNodeSteps_shows_worker {Q : Env → Event → Prop} (i : Config) (fuel : Nat)
    (hrole : i.role = hostRoleWorker) (hha : i.highAvailabilityMode ≠ clusterHighAvailabilityModeNone)
    (hQ : ∀ i', i'.role = hostRoleWorker → Prog.Shows Q (workerWaitFor2ReadyMasters i' fuel)) :
    Prog.Shows Q (installNodeSteps i fuel) := by
  have hnb : ¬(i.role = hostRoleBootstrap ∧ i.highAvailabilityMode ≠ clusterHighAvailabilityModeNone) :=
    fun hb => absurd (hrole.symm.trans hb.1) (by decide)
  refine Prog.Shows.bind_right fun _ => Prog.Shows.bind_right fun dev => Prog.Shows.bind_right fun _ =>
    Prog.Shows.bind_right fun _ => Prog.Shows.bind_right fun _ => Prog.Shows.bind_right fun _ =>
    Prog.Shows.bind_of_returns (?_ : Prog.Returns (fun (a : Config × String) _ => a.1.role = hostRoleWorker) _)
      fun x hx => ?_
  · refine Prog.Returns.ite (fun h => absurd h hha) fun _ =>
      (Prog.Returns.any.bind fun _ => Prog.Returns.pure _).mono fun _ _ ⟨_, _, _, _, _, ha, _⟩ => ?_
    subst ha
    simpa [hnb] using hrole
  · rcases x with ⟨i', path⟩
    exact Prog.Shows.bind_right fun _ => Prog.Shows.bind_right fun _ =>
      Prog.Shows.bind_left (Prog.Shows.ite (fun hb => absurd hb hnb) fun _ =>
        Prog.Shows.ite (fun _ => hQ i' hx) fun hn => absurd hx hn)

theorem installNode_worker_guarded (i : Config) (hrole : i.role = hostRoleWorker)
    (hha : i.highAvailabilityMode ≠ clusterHighAvailabilityModeNone) (fuel : Nat) (env : Env) (h : List Event) :
    Guarded (fun pre => Event.timedOut ∈ pre ∨ ∃ x ∈ pre, WorkerMayReboot x) (installNode i fuel env h).2 := by
  refine installNode_guarded (fun t t' ht => ?_) i fuel env h fun c hc => ?_
  · rcases ht with ht | ⟨x, hx, hw⟩
    exacts [.inl (List.mem_append_left _ ht), .inr ⟨x, List.mem_append_left _ hx, hw⟩]
  · obtain ⟨x, hx, hw | rfl⟩ :=
      installNodeSteps_shows_worker i fuel hrole hha (fun i' _ => workerWaitFor2ReadyMasters_shows i' fuel) env h c hc
    exacts [.inr ⟨x, hx, hw⟩, .inl hx]

/-- A worker of the same cluster. -/
def workerConfig : Config := { bootstrapConfig with role := hostRoleWorker, hostID := "h3" }

/-- `twoMastersEnv` on an add-hosts cluster. -/
def addHostsEnv : Env := { twoMastersEnv with cluster := fun _ _ => .ok ⟨"AddHostsCluster"⟩ }

theorem workerConfig_installNode_guarded :
    workerConfig.role = hostRoleWorker ∧ workerConfig.highAvailabilityMode ≠ clusterHighAvailabilityModeNone ∧
      (∃ x ∈ (installNode workerConfig 2 addHostsEnv []).2, x.Terminal) ∧
      Guarded (fun pre => Event.timedOut ∈ pre ∨ ∃ x ∈ pre, WorkerMayReboot x)
        (installNode workerConfig 2 addHostsEnv []).2 :=
  ⟨rfl, by decide, installNode_terminal_of_ok (by decide),
    installNode_worker_guarded workerConfig rfl (by decide) 2 addHostsEnv []⟩

/-! ## The logs before the reboot -/

/-- What `InstallNode` has done before its node-terminating call, whatever the host: the log
state reported as requested, and the installation logs uploaded, as the bootstrap's exactly on
the bootstrap host or a single node. -/
def LogsUploaded (i : Config) (t : List Event) : Prop :=
  Event.call (.hostLogProgressReport i.infraEnvID i.hostID logsStateRequested) .none ∈ t ∧
    ∃ r, Event.call (.uploadInstallationLogs
      (decide (i.role = hostRoleBootstrap ∨ i.highAvailabilityMode = clusterHighAvailabilityModeNone))) (.text r) ∈ t

/-- The flag `isBootstrap || HighAvailabilityMode == None` of the upload. -/
theorem uploadInstallationLogs_flag (i : Config) :
    (decide (i.role = hostRoleBootstrap ∧ i.highAvailabilityMode ≠ clusterHighAvailabilityModeNone) ||
      decide (i.highAvailabilityMode = clusterHighAvailabilityModeNone)) =
      decide (i.role = hostRoleBootstrap ∨ i.highAvailabilityMode = clusterHighAvailabilityModeNone) := by
  by_cases hr : i.role = hostRoleBootstrap <;> by_cases hn : i.highAvailabilityMode = clusterHighAvailabilityModeNone <;>
    simp [hr, hn]

/-- `InstallNode` returns from its steps only through the log report and the upload. -/
theorem installNodeSteps_shows_logs {Q : Env → Event → Prop} (i : Config) (fuel : Nat)
    (hQ : ∀ role device, Prog.Shows Q (do
      InventoryClient.hostLogProgressReport i.infraEnvID i.hostID logsStateRequested
      Prog.discard (Ops.uploadInstallationLogs
        (decide (i.role = hostRoleBootstrap ∧ i.highAvailabilityMode ≠ clusterHighAvailabilityModeNone) ||
          decide (i.highAvailabilityMode = clusterHighAvailabilityModeNone)))
      pure { i with role := role, device := device })) :
    Prog.Shows Q (installNodeSteps i fuel) := by
  refine Prog.Shows.bind_right fun _ => Prog.Shows.bind_right fun dev => Prog.Shows.bind_right fun _ =>
    Prog.Shows.bind_right fun _ => Prog.Shows.bind_right fun _ => Prog.Shows.bind_right fun _ =>
    Prog.Shows.bind_of_returns (ignitionPath_config _ fuel) fun x hx => ?_
  rcases x with ⟨i', path⟩
  obtain ⟨role, rfl⟩ := hx
  exact Prog.Shows.bind_right fun _ => Prog.Shows.bind_right fun _ => Prog.Shows.bind_right fun _ =>
    hQ role dev

theorem LogsUploaded.append {i : Config} {t : List Event} (h : LogsUploaded i t) (t' : List Event) :
    LogsUploaded i (t ++ t') :=
  ⟨List.mem_append_left _ h.1, h.2.imp fun _ hr => List.mem_append_left _ hr⟩

/-- Every node-terminating call of `InstallNode` comes after the log state was reported as
requested and the installation logs were uploaded (whatever the upload answered), the upload
flagged as the bootstrap's exactly when the host is the bootstrap or a single node. -/
theorem installNode_logs_uploaded (i : Config) (fuel : Nat) (env : Env) (h : List Event) :
    Guarded (LogsUploaded i) (installNode i fuel env h).2 := by
  have hreport := installNodeSteps_shows_logs i fuel fun _ _ =>
    Prog.Shows.bind_left (Prog.Shows.emit fun _ => rfl)
  have hupload : Prog.Shows (fun _ x => ∃ r, x = .call (.uploadInstallationLogs
      (decide (i.role = hostRoleBootstrap ∨ i.highAvailabilityMode = clusterHighAvailabilityModeNone))) (.text r))
      (installNodeSteps i fuel) :=
    installNodeSteps_shows_logs i fuel fun _ _ => Prog.Shows.bind_right fun _ => Prog.Shows.bind_left <| by
      unfold Ops.uploadInstallationLogs callText
      exact Prog.Shows.discard_query fun _ r => ⟨r, by rw [uploadInstallationLogs_flag]⟩
  refine installNode_guarded (fun _ t' h => h.append t') i fuel env h fun c hc => ?_
  obtain ⟨_, hx, rfl⟩ := hreport env h c hc
  obtain ⟨_, hu, r, rfl⟩ := hupload env h c hc
  exact ⟨hx, r, hu⟩

end AssistedInstaller
