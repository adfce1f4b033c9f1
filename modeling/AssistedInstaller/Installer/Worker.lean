import AssistedInstaller.Installer.Basic
import AssistedInstaller.Utils.Wait

/-
  AssistedInstaller.Installer.Worker — `workerWaitFor2ReadyMasters`: before it reboots,
  a worker waits until the cluster is an add-hosts cluster or two masters are done.

  The predicate caches the cluster of the first `GetCluster` that succeeds; a poll
  whose `GetCluster` or `ListsHostsForRole` fails answers false. The wait's error (a
  timeout) is dropped, so the worker goes on either way.
  - `workerWaitFor2ReadyMasters_sat`: every run that returns went through a poll that
    saw an add-hosts cluster from a successful `GetCluster`, or a successful
    `ListsHostsForRole(master)` with `minMasterNodes` hosts done, or the timer fired.
  - `workerWaitFor2ReadyMasters_cached`: over every run, `GetCluster` is called only while
    none has succeeded, and `ListsHostsForRole(master)` only after a successful
    `GetCluster` whose cluster is not add-hosts (`ClusterCached`; the closure's state
    against the trace is `ClusterState`, kept by each poll).
-/

namespace AssistedInstaller

/-- `installer.numDone`. -/
def numDone (hosts : List Host) : Nat := hosts.countP fun h => h.currentStage = .done

/-- `installer.workerWaitFor2ReadyMasters`. -/
def workerWaitFor2ReadyMasters (i : Config) (fuel : Nat) : Go Unit := do
  updateHostInstallProgress i .waitingForControlPlane ""
  Prog.discard (waitForPredicate predicate fuel none)
where
  /-- The predicate, over the cluster its closure caches. -/
  predicate : Option Cluster → Go (Bool × Option Cluster)
    | some cluster => check cluster
    | none => do
      match ← Prog.attempt InventoryClient.getCluster with
      | .error _ => pure (false, none)
      | .ok cluster => check cluster
  /-- The predicate once it holds a cluster. -/
  check (cluster : Cluster) : Go (Bool × Option Cluster) :=
    if cluster.kind = clusterKindAddHostsCluster then pure (true, some cluster) else do
      match ← Prog.attempt (InventoryClient.listsHostsForRole hostRoleMaster) with
      | .error _ => pure (false, some cluster)
      | .ok hosts => pure (decide (minMasterNodes ≤ numDone hosts), some cluster)

/-- The cluster the predicate holds came from a `GetCluster` that succeeded. -/
def CachedCluster (cluster : Option Cluster) (t : List Event) : Prop :=
  ∀ c, cluster = some c → Event.call .getCluster (.cluster (.ok c)) ∈ t

/-- A poll that lets the worker through: an add-hosts cluster, or enough masters done. -/
def WorkerMayReboot (x : Event) : Prop :=
  (∃ cluster, x = .call .getCluster (.cluster (.ok cluster)) ∧ cluster.kind = clusterKindAddHostsCluster) ∨
  ∃ hosts, x = .call (.listsHostsForRole hostRoleMaster) (.hosts (.ok hosts)) ∧ minMasterNodes ≤ numDone hosts

theorem workerWaitFor2ReadyMasters_check (t₀ : List Event) (cluster : Cluster)
    (hc : Event.call .getCluster (.cluster (.ok cluster)) ∈ t₀) :
    Prog.Sat (workerWaitFor2ReadyMasters.check cluster) (PredicateTurn CachedCluster
      (fun t => ∃ x ∈ t, WorkerMayReboot x) t₀) := fun env h => by
  unfold workerWaitFor2ReadyMasters.check
  split
  · exact ⟨_, List.mem_append_left _ hc, .inl ⟨cluster, rfl, ‹_›⟩⟩
  simp only [InventoryClient.listsHostsForRole, callHosts, Prog.attempt_query_bind_run]
  cases hl : env.hosts h (.listsHostsForRole hostRoleMaster) with
  | error e => simp [PredicateTurn, CachedCluster, hc]
  | ok hosts =>
    by_cases hd : minMasterNodes ≤ numDone hosts
    · simp only [hd, decide_True, PredicateTurn, Prog.pure_run]
      exact ⟨_, List.mem_append_right _ (List.mem_singleton_self _), .inr ⟨hosts, rfl, hd⟩⟩
    · simp [hd, PredicateTurn, CachedCluster, hc]

theorem workerWaitFor2ReadyMasters_sat (i : Config) (n : Nat) :
    Prog.Sat (workerWaitFor2ReadyMasters i n) fun t o =>
      o = .ok () → (∃ x ∈ t, WorkerMayReboot x) ∨ Event.timedOut ∈ t := by
  have hp : ∀ s t₀, CachedCluster s t₀ → Prog.Sat (workerWaitFor2ReadyMasters.predicate s)
      (PredicateTurn CachedCluster (fun t => ∃ x ∈ t, WorkerMayReboot x) t₀) := by
    rintro (_ | c) t₀ hs env h
    · simp only [workerWaitFor2ReadyMasters.predicate, InventoryClient.getCluster, callCluster,
        Prog.attempt_query_bind_run]
      cases hg : env.cluster h .getCluster with
      | error e => simp [PredicateTurn, CachedCluster]
      | ok c => exact (workerWaitFor2ReadyMasters_check (t₀ ++ [.call .getCluster (.cluster (.ok c))]) c
          (by simp) env (h ++ [.call .getCluster (.cluster (.ok c))])).cons
    · exact workerWaitFor2ReadyMasters_check t₀ c (hs c rfl) env h
  have hw := waitForPredicate_sat workerWaitFor2ReadyMasters.predicate CachedCluster
    (fun t => ∃ x ∈ t, WorkerMayReboot x) hp n none [] fun _ h => by cases h
  have hu : Prog.Sat (updateHostInstallProgress i .waitingForControlPlane "") fun _ _ => True :=
    fun _ _ => trivial
  refine (hu.bind fun _ => (Prog.Sat.attempt hw).bind fun _ => Prog.Sat.pure ()).mono fun t o h ho => ?_
  subst ho
  obtain ⟨_, t₁, t₂, rfl, -, r, t₃, t₄, rfl, hr, rfl, -⟩ := h
  rcases r with e | _
  · exact .inr (List.mem_append_right _ (by simpa [WaitEnds] using (hr.2.1 e rfl).2))
  · obtain ⟨x, hx, hq⟩ : ∃ x ∈ [] ++ t₃, WorkerMayReboot x := hr.1 () rfl
    exact .inl ⟨x, by simp_all, hq⟩

theorem workerWaitFor2ReadyMasters_predicate_kinds (s : Option Cluster) :
    Kinds [.other] (workerWaitFor2ReadyMasters.predicate s) := by
  have hcheck (c : Cluster) : Kinds [.other] (workerWaitFor2ReadyMasters.check c) := by
    unfold workerWaitFor2ReadyMasters.check
    split
    · exact Prog.Emits.pure _
    · exact (kinds_callHosts (by decide)).attempt.bind fun r => by split <;> exact Prog.Emits.pure _
  cases s with
  | some c => exact hcheck c
  | none =>
    refine (kinds_callCluster (by decide)).attempt.bind fun r => ?_
    split
    exacts [Prog.Emits.pure _, hcheck _]

theorem workerWaitFor2ReadyMasters_kinds (i : Config) (n : Nat) :
    Kinds [.progress .waitingForControlPlane, .other, .timedOut] (workerWaitFor2ReadyMasters i n) :=
  (Kinds.widen _ (updateHostInstallProgress_kinds i _ _) (by decide)).bind fun _ =>
    (waitForPredicate_emits _ (by decide) (fun s => Kinds.widen _
      (workerWaitFor2ReadyMasters_predicate_kinds s) (by decide)) n none).discard

theorem workerWaitFor2ReadyMasters_reports (i : Config) (hi : i.hostID ≠ "") (n : Nat) :
    Reports [.waitingForControlPlane] (workerWaitFor2ReadyMasters i n) :=
  (updateHostInstallProgress_reports i _ _ hi).bind fun _ => reports_nil
    (waitForPredicate_emits _ (by decide) (fun s => Kinds.widen [.other, .timedOut]
      (workerWaitFor2ReadyMasters_predicate_kinds s) (by decide)) n none).discard (by simp)

/-! ## The cached cluster

The closure's `cluster` is filled by the first `GetCluster` that succeeds and never cleared,
and the master hosts are listed only past the add-hosts return. Over the trace: a
`GetCluster` comes only while none has succeeded, a `ListsHostsForRole(master)` only after
a `GetCluster` that succeeded with a cluster that is not add-hosts. -/

/-- No `GetCluster` has succeeded. -/
def NoClusterYet (t : List Event) : Prop := ∀ c, Event.call .getCluster (.cluster (.ok c)) ∉ t

/-- A `GetCluster` has succeeded with a cluster that is not add-hosts. -/
def KnownNotAddHosts (t : List Event) : Prop :=
  ∃ c, Event.call .getCluster (.cluster (.ok c)) ∈ t ∧ c.kind ≠ clusterKindAddHostsCluster

/-- What the cache allows of a trace: `GetCluster` only while none has succeeded,
`ListsHostsForRole(master)` only once the cluster is known not to be add-hosts. -/
def ClusterCached (t : List Event) : Prop :=
  Prog.GuardedBy (Event.Calls .getCluster) NoClusterYet t ∧
    Prog.GuardedBy (Event.Calls (.listsHostsForRole hostRoleMaster)) KnownNotAddHosts t

/-- The closure's state against the trace: empty while no `GetCluster` has succeeded, else
the cluster one returned. -/
def ClusterState (s : Option Cluster) (t : List Event) : Prop :=
  ClusterCached t ∧ match s with
    | none => NoClusterYet t
    | some c => Event.call .getCluster (.cluster (.ok c)) ∈ t

/-- An event that is neither of the two calls the cache governs. -/
def Event.CacheFree (x : Event) : Prop :=
  ¬x.Calls .getCluster ∧ ¬x.Calls (.listsHostsForRole hostRoleMaster)

theorem Event.cacheFree_of_kind {x : Event} (hx : x.kind ≠ .other) : x.CacheFree :=
  ⟨Event.not_calls_of_kind hx, Event.not_calls_of_kind hx⟩

theorem NoClusterYet.snoc {t : List Event} {x : Event} (h : NoClusterYet t)
    (hx : ∀ c, x ≠ .call .getCluster (.cluster (.ok c))) : NoClusterYet (t ++ [x]) := fun c hc =>
  (List.mem_append.mp hc).elim (h c) fun he => hx c (List.mem_singleton.mp he).symm

theorem ClusterState.cached {s : Option Cluster} {t : List Event} (h : ClusterState s t) : ClusterCached t :=
  h.1

section
variable {env : Env}

/-- Events other than the two calls keep the closure's state. -/
theorem clusterState_emits {α : Type} {m : Go α} (s : Option Cluster) (hm : Prog.Emits Event.CacheFree m) :
    Prog.Triple env (ClusterState s) m (fun _ => ClusterState s) fun t _ => ClusterCached t :=
  (Prog.Triple.of_emits hm fun t x ⟨⟨hg, hl⟩, hs⟩ ⟨hxg, hxl⟩ =>
    ⟨⟨hg.snoc fun h => absurd h hxg, hl.snoc fun h => absurd h hxl⟩, by
      cases s with
      | none => exact NoClusterYet.snoc hs fun _ he => hxg ⟨_, he⟩
      | some c => exact List.mem_append_left _ hs⟩).conseq (fun _ h => h) (fun _ _ h => h) fun _ _ h => h.cached

/-- A `GetCluster` while the closure is empty fills it when it succeeds. -/
theorem ClusterState.getCluster {t : List Event} (h : ClusterState none t) (r : Except GoError Cluster) :
    ClusterState r.toOption (t ++ [.call .getCluster (.cluster r)]) := by
  refine ⟨⟨h.1.1.snoc fun _ => h.2, h.1.2.snoc fun ⟨_, he⟩ => nomatch he⟩, ?_⟩
  cases r with
  | error e => exact NoClusterYet.snoc h.2 fun _ he => nomatch he
  | ok c => exact List.mem_append_right _ (List.mem_singleton_self _)

/-- A `ListsHostsForRole(master)` once the closure holds a cluster that is not add-hosts. -/
theorem ClusterState.listsHosts {t : List Event} {c : Cluster} (h : ClusterState (some c) t)
    (hk : c.kind ≠ clusterKindAddHostsCluster) (r : Except GoError (List Host)) :
    ClusterState (some c) (t ++ [.call (.listsHostsForRole hostRoleMaster) (.hosts r)]) :=
  ⟨⟨h.1.1.snoc (fun ⟨_, he⟩ => nomatch he), h.1.2.snoc fun _ => ⟨c, h.2, hk⟩⟩, List.mem_append_left _ h.2⟩

theorem workerWaitFor2ReadyMasters_check_cached (c : Cluster) :
    Prog.Triple env (ClusterState (some c)) (workerWaitFor2ReadyMasters.check c)
      (fun r t => ClusterState r.2 t) fun t _ => ClusterCached t := by
  unfold workerWaitFor2ReadyMasters.check InventoryClient.listsHostsForRole callHosts
  refine Prog.Triple.ite (fun _ => Prog.Triple.pure_of _ fun _ h => h) fun hk => ?_
  refine (Prog.Triple.attempt_query).bind fun r => ?_
  refine Prog.Triple.conseq ?_ (fun t ⟨t₀, h₀, ht⟩ => ht ▸ h₀.listsHosts hk r) (fun _ _ h => h) fun _ _ h => h
  split <;> exact Prog.Triple.pure_of _ fun _ h => h

theorem workerWaitFor2ReadyMasters_predicate_cached (s : Option Cluster) :
    Prog.Triple env (ClusterState s) (workerWaitFor2ReadyMasters.predicate s)
      (fun r t => ClusterState r.2 t) fun t _ => ClusterCached t := by
  cases s with
  | some c => exact workerWaitFor2ReadyMasters_check_cached c
  | none =>
    rw [workerWaitFor2ReadyMasters.predicate]
    unfold InventoryClient.getCluster callCluster
    refine (Prog.Triple.attempt_query).bind fun r => ?_
    refine Prog.Triple.conseq ?_ (fun t ⟨t₀, h₀, ht⟩ => ht ▸ h₀.getCluster r) (fun _ _ h => h) fun _ _ h => h
    split
    · exact Prog.Triple.pure_of _ fun _ h => h
    · exact workerWaitFor2ReadyMasters_check_cached _

end

/-- Over every run of `workerWaitFor2ReadyMasters`, `GetCluster` is called only until one call
succeeds, and `ListsHostsForRole(master)` only after a successful `GetCluster` whose cluster is not
an add-hosts cluster. -/
theorem workerWaitFor2ReadyMasters_cached (i : Config) (fuel : Nat) (env : Env) (h : List Event) :
    ClusterCached (workerWaitFor2ReadyMasters i fuel env h).2 := by
  have hloop : ∀ n s, Prog.Triple env (ClusterState s)
      (waitForPredicate workerWaitFor2ReadyMasters.predicate n s) (fun _ => ClusterCached)
      fun t _ => ClusterCached t := by
    refine Prog.Triple.loop ClusterState (fun s => ?_) fun _ _ h => h.cached
    refine (clusterState_emits s (Prog.Emits.choose _)).bind fun b => Prog.Triple.ite (fun _ => ?_) fun _ => ?_
    · exact (clusterState_emits s (Prog.Emits.emit (Event.cacheFree_of_kind (by decide)))).bind fun _ =>
        (Prog.Triple.throw _).conseq (fun _ h => h.cached) (fun _ _ h => h) fun _ _ h => h
    · refine (workerWaitFor2ReadyMasters_predicate_cached s).bind fun r => ?_
      rcases r with ⟨_ | _, s'⟩
      exacts [Prog.Triple.pure_of _ fun _ h => h, Prog.Triple.pure_of _ fun _ h => h.cached]
  have hu : Prog.Emits Event.CacheFree (updateHostInstallProgress i .waitingForControlPlane "") :=
    Prog.Emits.mono (updateHostInstallProgress_kinds i _ _) fun _ hx =>
      Event.cacheFree_of_kind fun he => by simp [he] at hx
  exact ((clusterState_emits none hu).bind fun _ => (hloop fuel none).discard).run_of
    ⟨⟨Prog.GuardedBy.nil, Prog.GuardedBy.nil⟩, fun _ h => nomatch h⟩ h

end AssistedInstaller
