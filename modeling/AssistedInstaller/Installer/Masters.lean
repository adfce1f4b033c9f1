import AssistedInstaller.Installer.Basic
import Mathlib.Data.List.Nodup

/-
  AssistedInstaller.Installer.Masters — `waitForMasterNodes`, its `sufficientMasterNodes`
  closure and `updateReadyMasters`: the bootstrap waits until enough master nodes are
  Ready and matched to inventory hosts other than itself.

  `updateReadyMasters` appends a Ready node's name to `*readyMasters` before it looks
  the node up in the inventory map, and returns at the first node it cannot match: the
  name stays in the list, is never looked up again, and counts towards
  `minMasterNodes`.
  - `waitForMasterNodes_shows`: under a context that is never cancelled the wait
    returns only through its predicate, with at least `minMasterNodes` names.
  - `updateReadyMasters_keeps_unmatched`: one Ready node the inventory does not know:
    its name is in `readyMasters` after the call.
  - `waitForMasterNodes_counts_unmatched`: two polls of two Ready masters, the first of
    which the inventory does not know; the wait returns through its predicate with
    both names although one node was matched.
  - `waitForMasterNodes_counted`: what the count does mean: when the wait returns, its
    names are at least `minMasterNodes`, pairwise distinct, and each the name of a node
    some listing in the trace returned as Ready.
  - `waitForMasterNodes_cached`: over every run, `GetEnabledHostsNamesHosts` is called
    only until one call answers, and `ListMasterNodes` only after one has
    (`HostsMapCached`; the closure's map against the trace is `HostsMapState`).
-/

namespace AssistedInstaller

/-- `installer.updateReadyMasters`: the new `*readyMasters` and the returned error. -/
def updateReadyMasters (nodes : List Node) (readyMasters : List String) (inventoryHostsMap : HostsMap) :
    Go (List String × Option GoError) := do
  let env ← Prog.read
  let knownIpAddresses := env.buildHostsMapIPAddressBased inventoryHostsMap
  loop env knownIpAddresses nodes readyMasters
where
  loop (env : Env) (knownIpAddresses : HostsMap) :
      List Node → List String → Go (List String × Option GoError)
    | [], readyMasters => pure (readyMasters, none)
    | node :: nodes, readyMasters =>
      if env.isK8sNodeIsReady node ∧ node.name ∉ readyMasters then
        let readyMasters := readyMasters ++ [node.name]
        match env.hostMatchByNameOrIPAddress node inventoryHostsMap knownIpAddresses with
        | none => pure (readyMasters, some ⟨"Node " ++ node.name ++ " is not in inventory hosts"⟩)
        | some host => do
          Prog.discard (InventoryClient.updateHostInstallProgress host.host.infraEnvID host.host.id
            .joined "")
          loop env knownIpAddresses nodes readyMasters
      else loop env knownIpAddresses nodes readyMasters

/-- The `sufficientMasterNodes` closure of `waitForMasterNodes`, over the two variables it
captures (`readyMasters`, `inventoryHostsMap`), which it returns updated. -/
def sufficientMasterNodes (i : Config) (minMasterNodes : Nat) (readyMasters : List String)
    (inventoryHostsMap : Option HostsMap) : Go (Bool × List String × Option HostsMap) := do
  match ← Prog.attempt (getInventoryHostsMap i inventoryHostsMap) with
  | .error _ => pure (false, readyMasters, none)
  | .ok hostsMap =>
    match ← Prog.attempt K8sClient.listMasterNodes with
    | .error _ => pure (false, readyMasters, some hostsMap)
    | .ok nodes =>
      let (readyMasters, err) ← updateReadyMasters nodes readyMasters hostsMap
      match err with
      | some _ => pure (false, readyMasters, some hostsMap)
      | none => pure (decide (minMasterNodes ≤ readyMasters.length), readyMasters, some hostsMap)

/-- `installer.waitForMasterNodes`; returning through the predicate is recorded as
`mastersReady`, with the names counted. -/
def waitForMasterNodes (i : Config) (ctx : Context) (minMasterNodes : Nat) (fuel : Nat) : Go Unit :=
  Prog.loop (tick i ctx minMasterNodes) fuel ([], none)
where
  /-- One turn of the `for`-`select`. -/
  tick (i : Config) (ctx : Context) (minMasterNodes : Nat) (s : List String × Option HostsMap) :
      Go ((List String × Option HostsMap) ⊕ Unit) :=
    if ctx.done then do
      Prog.emit .ctxDone
      pure (.inr ())
    else do
      let (ok, readyMasters, inventoryHostsMap) ← sufficientMasterNodes i minMasterNodes s.1 s.2
      if ok then do
        Prog.emit (.mastersReady readyMasters)
        pure (.inr ())
      else pure (.inl (readyMasters, inventoryHostsMap))

/-! ## Which events -/

section
variable (i : Config) (minMasterNodes : Nat)

theorem updateReadyMasters_kinds (nodes : List Node) (rm : List String) (hm : HostsMap) :
    Kinds [.other] (updateReadyMasters nodes rm hm) := by
  refine Prog.Emits.read.bind fun env => ?_
  induction nodes generalizing rm with
  | nil => exact Prog.Emits.pure _
  | cons node nodes ih =>
    unfold updateReadyMasters.loop
    split
    · split
      · exact Prog.Emits.pure _
      · exact (kinds_callUnit (by simp [Call.kind])).discard.bind fun _ => ih _
    · exact ih _

theorem sufficientMasterNodes_kinds (rm : List String) (hm : Option HostsMap) :
    Kinds [.enabledHosts, .listMasterNodes, .other] (sufficientMasterNodes i minMasterNodes rm hm) := by
  refine (Kinds.widen _ (getInventoryHostsMap_kinds i hm) (by decide)).attempt.bind fun r => ?_
  rcases r with _ | hostsMap
  · exact Prog.Emits.pure _
  refine (kinds_callNodes (by decide)).attempt.bind fun r => ?_
  rcases r with _ | nodes
  · exact Prog.Emits.pure _
  refine (Kinds.widen _ (updateReadyMasters_kinds nodes rm hostsMap) (by decide)).bind fun r => ?_
  rcases r with ⟨_, _ | _⟩ <;> exact Prog.Emits.pure _

theorem sufficientMasterNodes_returns (rm : List String) (hm : Option HostsMap) :
    Prog.Returns (fun r _ => r.1 = true → minMasterNodes ≤ r.2.1.length)
      (sufficientMasterNodes i minMasterNodes rm hm) := by
  refine Prog.Returns.bind_value fun r => ?_
  rcases r with _ | hostsMap
  · exact (Prog.Returns.pure _).mono fun _ _ h => by simp [h.1]
  refine Prog.Returns.bind_value fun r => ?_
  rcases r with _ | nodes
  · exact (Prog.Returns.pure _).mono fun _ _ h => by simp [h.1]
  refine Prog.Returns.bind_value fun r => ?_
  rcases r with ⟨rm', _ | _⟩ <;> exact (Prog.Returns.pure _).mono fun _ _ h => by simp [h.1]

variable {ctx : Context} (hctx : ctx.done = false)
include hctx

theorem waitForMasterNodes_kinds (n : Nat) :
    Kinds [.enabledHosts, .listMasterNodes, .other, .mastersReady] (waitForMasterNodes i ctx minMasterNodes n) := by
  refine Prog.Emits.loop (fun s => ?_) n _
  simp only [waitForMasterNodes.tick, hctx, Bool.false_eq_true, if_false]
  refine ((sufficientMasterNodes_kinds i minMasterNodes _ _).mono (by simp)).bind fun r => ?_
  split
  · exact (Prog.Emits.emit (by simp [Event.kind])).bind fun _ => Prog.Emits.pure _
  · exact Prog.Emits.pure _

/-- `waitForMasterNodes` returned through `sufficientMasterNodes`, with `readyMasters` holding
at least `minMasterNodes` names. -/
def MastersReady (minMasterNodes : Nat) (x : Event) : Prop :=
  ∃ readyMasters, x = .mastersReady readyMasters ∧ minMasterNodes ≤ readyMasters.length

theorem waitForMasterNodes_shows (n : Nat) :
    Prog.Shows (fun _ => MastersReady minMasterNodes) (waitForMasterNodes i ctx minMasterNodes n) := by
  refine Prog.Shows.loop (fun s env h b hb => ?_) n _
  have hsuf := sufficientMasterNodes_returns i minMasterNodes s.1 s.2 env h
  simp only [waitForMasterNodes.tick, hctx, Bool.false_eq_true, if_false, Prog.bind_run] at hb ⊢
  rcases hr : sufficientMasterNodes i minMasterNodes s.1 s.2 env h with ⟨⟨ok, rm, hm⟩ | e | _, t⟩ <;>
    rw [hr] at hb hsuf <;> simp only [reduceCtorEq] at hb ⊢
  cases ok <;> simp [Prog.emit_bind_run] at hb ⊢
  exact ⟨_, .inr rfl, _, rfl, hsuf _ rfl rfl⟩

end

/-! ## A Ready node the inventory does not know -/

def master1 : Node := ⟨"master-1", [], []⟩
def master2 : Node := ⟨"master-2", [], []⟩
def master2Host : HostData := ⟨⟨"h2", "ie", .configuring⟩, []⟩

/-- Two masters, both Ready; the inventory map has only the second, and nodes are matched by
name. -/
def twoMastersEnv : Env where
  unit _ _ := .ok ()
  text _ _ := .ok ""
  value _ _ := ""
  flag _ _ := false
  strings _ _ := .ok []
  int _ _ := .ok 0
  cluster _ _ := .ok ⟨""⟩
  hosts _ _ := .ok []
  hostsMap _ _ := .ok [("master-2", master2Host)]
  nodes _ _ := .ok [master1, master2]
  events _ _ := .ok []
  ignition _ _ := .ok ⟨[], []⟩
  timerFires _ := false
  logsTickerFires _ := false
  newVersion _ := .error ⟨""⟩
  versionLessThan _ _ := false
  isK8sNodeIsReady _ := true
  buildHostsMapIPAddressBased m := m
  hostMatchByNameOrIPAddress node m _ := (m.find? fun e => e.1 = node.name).map Prod.snd
  setConfiguringStatusForHosts m _ := m
  filepathJoin dir file := dir ++ "/" ++ file
  sshDir := "/root/.ssh"
  sshKeyPath := "/root/.ssh/id_rsa"
  sshPubKeyPath := "/root/.ssh/id_rsa.pub"
  assistedInstallerSshManifest := ""
  sshManifestTmpl := ""
  assistedControllerIsReadyEvent := "AssistedControllerIsReady"

/-- The bootstrap host, not in the map. -/
def bootstrapConfig : Config where
  role := hostRoleBootstrap
  device := "/dev/sda"
  clusterID := "c"
  infraEnvID := "ie"
  hostID := "h0"
  highAvailabilityMode := "Full"
  openshiftVersion := "4.6"
  mcoImage := ""
  installerArgs := []
  disksToFormat := []
  dryRunEnabled := false
  fakeRebootMarkerPath := ""
  skipInstallationDiskCleanup := false

theorem updateReadyMasters_keeps_unmatched :
    twoMastersEnv.hostMatchByNameOrIPAddress master1 [("master-2", master2Host)] [("master-2", master2Host)] =
      none ∧
    (updateReadyMasters [master1] [] [("master-2", master2Host)] twoMastersEnv []).1 =
      .ok (["master-1"], some ⟨"Node master-1 is not in inventory hosts"⟩) := by
  decide

theorem waitForMasterNodes_counts_unmatched :
    twoMastersEnv.hostMatchByNameOrIPAddress master1 [("master-2", master2Host)] [("master-2", master2Host)] =
      none ∧
    waitForMasterNodes bootstrapConfig Context.background minMasterNodes 2 twoMastersEnv [] =
      (.ok (), [.call .getEnabledHostsNamesHosts (.hostsMap (.ok [("master-2", master2Host)])),
        .call .listMasterNodes (.nodes (.ok [master1, master2])),
        .call .listMasterNodes (.nodes (.ok [master1, master2])),
        .call (.updateHostInstallProgress "ie" "h2" .joined "") (.unit (.ok ())),
        .mastersReady ["master-1", "master-2"]]) := by
  decide

/-! ## The names counted -/

/-- A name `waitForMasterNodes` may count by `t`: a `ListMasterNodes` call of `t` returned a node
of that name, and `IsK8sNodeIsReady` accepts the node. -/
def ReadyNode (env : Env) (t : List Event) (name : String) : Prop :=
  ∃ nodes, Event.call .listMasterNodes (.nodes (.ok nodes)) ∈ t ∧
    ∃ node ∈ nodes, node.name = name ∧ env.isK8sNodeIsReady node = true

/-- Names counted by `t`: pairwise distinct, and each a Ready node's that `t` listed. -/
def CountedNames (env : Env) (t : List Event) (readyMasters : List String) : Prop :=
  readyMasters.Nodup ∧ ∀ name ∈ readyMasters, ReadyNode env t name

/-- Every node of `ns` was in the answer of a `ListMasterNodes` call of `t`. -/
def Listed (t : List Event) (ns : List Node) : Prop :=
  ∀ node ∈ ns, ∃ nodes, Event.call .listMasterNodes (.nodes (.ok nodes)) ∈ t ∧ node ∈ nodes

section
variable {env : Env} {t t' : List Event} {rm : List String}

theorem CountedNames.mono (h : CountedNames env t rm) (hs : t ⊆ t') : CountedNames env t' rm :=
  ⟨h.1, fun name hn => let ⟨nodes, hl, hnode⟩ := h.2 name hn; ⟨nodes, hs hl, hnode⟩⟩

theorem Listed.mono {ns : List Node} (h : Listed t ns) (hs : t ⊆ t') : Listed t' ns :=
  fun node hn => let ⟨nodes, hl, hm⟩ := h node hn; ⟨nodes, hs hl, hm⟩

/-- Counting a Ready node that `t` listed and that is not counted yet. -/
theorem CountedNames.snoc (h : CountedNames env t rm) {node : Node} (hl : Listed t [node])
    (hready : env.isK8sNodeIsReady node = true) (hn : node.name ∉ rm) :
    CountedNames env t (rm ++ [node.name]) := by
  refine ⟨List.concat_eq_append rm _ ▸ h.1.concat hn, fun name hname => ?_⟩
  rcases List.mem_append.mp hname with hname | hname
  · exact h.2 name hname
  · obtain ⟨nodes, hc, hnode⟩ := hl node (List.mem_singleton_self _)
    exact ⟨nodes, hc, node, hnode, (List.mem_singleton.mp hname).symm, hready⟩

theorem updateReadyMasters_loop_counted (hm known : HostsMap) (ns : List Node) (rm : List String) :
    Prog.Triple env (fun t => CountedNames env t rm ∧ Listed t ns) (updateReadyMasters.loop hm env known ns rm)
      (fun r t => CountedNames env t r.1) fun _ _ => True := by
  induction ns generalizing rm with
  | nil => exact (Prog.Triple.pure _).conseq (fun _ h => h.1) (fun _ _ h => h) fun _ _ h => h
  | cons node ns ih =>
    have hl : ∀ t, Listed t (node :: ns) → Listed t ns := fun _ h n hn => h n (List.mem_cons_of_mem _ hn)
    unfold updateReadyMasters.loop
    refine Prog.Triple.ite (fun hready => ?_) fun _ =>
      (ih rm).conseq (fun t h => ⟨h.1, hl t h.2⟩) (fun _ _ h => h) fun _ _ h => h
    have hc : ∀ t, CountedNames env t rm ∧ Listed t (node :: ns) → CountedNames env t (rm ++ [node.name]) :=
      fun t h => h.1.snoc (fun n hn => h.2 n (List.mem_singleton.mp hn ▸ List.mem_cons_self _ _)) hready.1 hready.2
    dsimp only
    split
    · exact (Prog.Triple.pure _).conseq hc (fun _ _ h => h) fun _ _ h => h
    · refine (Prog.Triple.conseq (Prog.Triple.frame fun _ _ h => ⟨h.1.mono (List.subset_append_left _ _),
        h.2.mono (List.subset_append_left _ _)⟩) (fun t h => ⟨hc t h, hl t h.2⟩) (fun _ _ h => h)
        fun _ _ h => h).bind fun _ => ih _

theorem updateReadyMasters_counted (nodes : List Node) (hm : HostsMap) :
    Prog.Triple env (fun t => CountedNames env t rm ∧ Listed t nodes) (updateReadyMasters nodes rm hm)
      (fun r t => CountedNames env t r.1) fun _ _ => True :=
  Prog.Triple.read.bind fun _ => Prog.Triple.pull fun he => he ▸ updateReadyMasters_loop_counted _ _ _ _

theorem sufficientMasterNodes_counted (i : Config) (minMasterNodes : Nat) (hm : Option HostsMap) :
    Prog.Triple env (fun t => CountedNames env t rm) (sufficientMasterNodes i minMasterNodes rm hm)
      (fun r t => CountedNames env t r.2.1 ∧ (r.1 = true → minMasterNodes ≤ r.2.1.length)) fun _ _ => True := by
  have hmono : ∀ {rm t t'}, CountedNames env t rm → CountedNames env (t ++ t') rm :=
    fun h => h.mono (List.subset_append_left _ _)
  have hfalse : ∀ {rm hm}, Prog.Triple env (fun t => CountedNames env t rm)
      (pure (false, rm, hm) : Go (Bool × List String × Option HostsMap))
      (fun r t => CountedNames env t r.2.1 ∧ (r.1 = true → minMasterNodes ≤ r.2.1.length)) fun _ _ => True :=
    (Prog.Triple.pure _).conseq (fun _ h => ⟨h, fun h => nomatch h⟩) (fun _ _ h => h) fun _ _ h => h
  refine (Prog.Triple.frame fun _ _ => hmono).bind fun r => ?_
  rcases r with _ | hostsMap
  · exact hfalse
  unfold K8sClient.listMasterNodes callNodes
  refine Prog.Triple.attempt_query.bind fun r => ?_
  rcases r with _ | nodes
  · exact hfalse.conseq (fun _ ⟨_, h, ht⟩ => ht ▸ hmono h) (fun _ _ h => h) fun _ _ h => h
  dsimp only
  refine ((updateReadyMasters_counted nodes hostsMap).conseq (fun _ ⟨_, h, ht⟩ =>
    ⟨ht ▸ hmono h, fun n hn => ⟨nodes, ht ▸ List.mem_append_right _ (List.mem_singleton_self _), hn⟩⟩)
    (fun _ _ h => h) fun _ _ h => h).bind fun r => ?_
  rcases r with ⟨rm', _ | _⟩
  · exact (Prog.Triple.pure _).conseq (fun _ h => ⟨h, of_decide_eq_true⟩) (fun _ _ h => h) fun _ _ h => h
  · exact hfalse

end

/-- When `waitForMasterNodes` returns through its predicate, the names it counted are at least
`minMasterNodes`, pairwise distinct, and each the name of a node that a `ListMasterNodes` call
of the wait returned and `IsK8sNodeIsReady` accepts. -/
theorem waitForMasterNodes_counted (i : Config) (ctx : Context) (minMasterNodes n : Nat) (env : Env)
    (h : List Event) (rm : List String)
    (hx : Event.mastersReady rm ∈ (waitForMasterNodes i ctx minMasterNodes n env h).2) :
    minMasterNodes ≤ rm.length ∧ CountedNames env (waitForMasterNodes i ctx minMasterNodes n env h).2 rm := by
  let P : List Event → Prop := fun t =>
    ∀ rm, Event.mastersReady rm ∈ t → minMasterNodes ≤ rm.length ∧ CountedNames env t rm
  have hP : ∀ t x, P t → x.kind ∈ [Kind.enabledHosts, Kind.listMasterNodes, Kind.other, Kind.ctxDone] →
      P (t ++ [x]) := by
    intro t x hp hk rm hrm
    rcases List.mem_append.mp hrm with hrm | hrm
    · exact (hp rm hrm).imp_right fun h => h.mono (List.subset_append_left _ _)
    · rw [← List.mem_singleton.mp hrm] at hk
      simp [Event.kind] at hk
  have hloop : ∀ n s, Prog.Triple env (fun t => CountedNames env t s.1 ∧ P t)
      (Prog.loop (waitForMasterNodes.tick i ctx minMasterNodes) n s) (fun _ t => P t) fun t _ => P t := by
    refine Prog.Triple.loop (fun (s : List String × Option HostsMap) t => CountedNames env t s.1 ∧ P t)
      (fun s => ?_) fun _ _ h => h.2
    unfold waitForMasterNodes.tick
    split
    · exact ((Prog.Triple.emit _).bind fun _ => Prog.Triple.pure _).conseq
        (fun t h => hP t _ h.2 (by simp [Event.kind])) (fun _ _ h => h) fun _ _ h => h
    refine (((sufficientMasterNodes_counted i minMasterNodes s.2).and (Prog.Triple.of_emits
      (sufficientMasterNodes_kinds i minMasterNodes s.1 s.2) fun t x hp hk => hP t x hp
        ((by decide : [Kind.enabledHosts, .listMasterNodes, .other] ⊆ [.enabledHosts, .listMasterNodes, .other,
          .ctxDone]) hk))).conseq
      (fun _ h => h) (fun _ _ h => h) fun _ _ h => h.2).bind fun r => ?_
    rcases r with ⟨ok, rm', hm'⟩
    dsimp only
    split
    · refine ((Prog.Triple.emit _).bind fun _ => Prog.Triple.pure _).conseq (fun t h rm hrm => ?_)
        (fun _ _ h => h) fun _ _ h => h
      rcases List.mem_append.mp hrm with hrm | hrm
      · exact (h.2 rm hrm).imp_right fun h => h.mono (List.subset_append_left _ _)
      · cases List.mem_singleton.mp hrm
        exact ⟨h.1.2 ‹_›, h.1.1.mono (List.subset_append_left _ _)⟩
    · exact (Prog.Triple.pure _).conseq (fun _ h => ⟨h.1.1, h.2⟩) (fun _ _ h => h) fun _ _ h => h
  have hp : P (waitForMasterNodes i ctx minMasterNodes n env h).2 :=
    (hloop n ([], none)).run_of ⟨⟨List.nodup_nil, fun _ h => nomatch h⟩, fun _ h => nomatch h⟩ h
  exact hp rm hx

/-- The two polls of `twoMastersEnv`: both names counted, the unmatched one included. -/
theorem twoMastersEnv_counted :
    Event.mastersReady ["master-1", "master-2"] ∈
        (waitForMasterNodes bootstrapConfig Context.background minMasterNodes 2 twoMastersEnv []).2 ∧
      minMasterNodes ≤ ["master-1", "master-2"].length ∧
      CountedNames twoMastersEnv (waitForMasterNodes bootstrapConfig Context.background minMasterNodes 2
        twoMastersEnv []).2 ["master-1", "master-2"] :=
  ⟨by decide, waitForMasterNodes_counted _ _ _ _ _ _ _ (by decide)⟩

/-! ## The cached hosts map

`sufficientMasterNodes` hands `inventoryHostsMap` back to `getInventoryHostsMap`, which asks the
inventory only for a `nil` map, and an error leaves it `nil`: the inventory is asked until it
answers and never again, and the master nodes are listed only once the map is known. -/

/-- A `GetEnabledHostsNamesHosts` that answered. -/
def HostsMapFetched (x : Event) : Prop := ∃ m, x = .call .getEnabledHostsNamesHosts (.hostsMap (.ok m))

/-- What the closure's map allows of a trace: `GetEnabledHostsNamesHosts` only while none has
answered, `ListMasterNodes` only once one has. -/
def HostsMapCached (t : List Event) : Prop :=
  Prog.GuardedBy (Event.Calls .getEnabledHostsNamesHosts) (fun pre => ∀ x ∈ pre, ¬HostsMapFetched x) t ∧
    Prog.GuardedBy (Event.Calls .listMasterNodes) (fun pre => ∃ x ∈ pre, HostsMapFetched x) t

/-- The closure's map against the trace: `nil` while no `GetEnabledHostsNamesHosts` has
answered, held once one has. -/
def HostsMapState (s : Option HostsMap) (t : List Event) : Prop :=
  HostsMapCached t ∧ match s with
    | none => ∀ x ∈ t, ¬HostsMapFetched x
    | some _ => ∃ x ∈ t, HostsMapFetched x

/-- An event that is neither of the two calls the map governs. -/
def Event.HostsMapFree (x : Event) : Prop :=
  ¬x.Calls .getEnabledHostsNamesHosts ∧ ¬x.Calls .listMasterNodes

theorem Event.hostsMapFree_of_kind {x : Event} (hx : x.kind ∉ [.enabledHosts, .listMasterNodes]) :
    x.HostsMapFree :=
  ⟨Event.not_calls_of_kind fun h => hx (h ▸ by decide), Event.not_calls_of_kind fun h => hx (h ▸ by decide)⟩

theorem updateReadyMasters_hostsMapFree (nodes : List Node) (rm : List String) (hm : HostsMap) :
    Prog.Emits Event.HostsMapFree (updateReadyMasters nodes rm hm) :=
  Prog.Emits.mono (updateReadyMasters_kinds nodes rm hm) fun _ hx =>
    Event.hostsMapFree_of_kind (by rw [List.mem_singleton.mp hx]; decide)

section
variable {env : Env} {t : List Event}

theorem noHostsMapFetched_snoc {x : Event} (h : ∀ y ∈ t, ¬HostsMapFetched y) (hx : ¬HostsMapFetched x) :
    ∀ y ∈ t ++ [x], ¬HostsMapFetched y :=
  fun y hy => (List.mem_append.mp hy).elim (h y) fun hy => List.mem_singleton.mp hy ▸ hx

/-- A `GetEnabledHostsNamesHosts` while the closure's map is `nil` fills it when it answers. -/
theorem HostsMapState.fetch (h : HostsMapState none t) (r : Except GoError HostsMap) :
    HostsMapState r.toOption (t ++ [.call .getEnabledHostsNamesHosts (.hostsMap r)]) := by
  refine ⟨⟨h.1.1.snoc fun _ => h.2, h.1.2.snoc (fun ⟨_, he⟩ => nomatch he)⟩, ?_⟩
  cases r with
  | error e => exact noHostsMapFetched_snoc h.2 fun ⟨_, he⟩ => nomatch he
  | ok m => exact ⟨_, List.mem_append_right _ (List.mem_singleton_self _), m, rfl⟩

/-- A `ListMasterNodes` once the closure holds a map. -/
theorem HostsMapState.listMasterNodes {m : HostsMap} (h : HostsMapState (some m) t) (r : Except GoError (List Node)) :
    HostsMapState (some m) (t ++ [.call .listMasterNodes (.nodes r)]) :=
  ⟨⟨h.1.1.snoc (fun ⟨_, he⟩ => nomatch he), h.1.2.snoc fun _ => h.2⟩,
    h.2.imp fun _ ⟨hx, hf⟩ => ⟨List.mem_append_left _ hx, hf⟩⟩

/-- Events other than the two calls keep the closure's map. -/
theorem hostsMapState_emits {α : Type} {m : Go α} (s : Option HostsMap) (hm : Prog.Emits Event.HostsMapFree m) :
    Prog.Triple env (HostsMapState s) m (fun _ => HostsMapState s) fun t _ => HostsMapCached t :=
  (Prog.Triple.of_emits hm fun t x ⟨⟨hg, hl⟩, hs⟩ ⟨hxg, hxl⟩ =>
    ⟨⟨hg.snoc fun h => absurd h hxg, hl.snoc fun h => absurd h hxl⟩, by
      cases s with
      | none => exact noHostsMapFetched_snoc hs fun ⟨_, he⟩ => hxg ⟨_, he⟩
      | some _ => exact hs.imp fun _ ⟨hy, hf⟩ => ⟨List.mem_append_left _ hy, hf⟩⟩).conseq
    (fun _ h => h) (fun _ _ h => h) fun _ _ h => h.1

theorem getInventoryHostsMap_cached (i : Config) (s : Option HostsMap) :
    Prog.Triple env (HostsMapState s) (Prog.attempt (getInventoryHostsMap i s))
      (fun r t => HostsMapState r.toOption t) fun t _ => HostsMapCached t := by
  refine Prog.Triple.attempt ?_
  cases s with
  | some m => exact Prog.Triple.pure_of _ fun _ h => h
  | none =>
    have hq : Prog.Triple env (HostsMapState none) InventoryClient.getEnabledHostsNamesHosts
        (fun m => HostsMapState (some m))
        fun t o => o.elim (HostsMapCached t) fun e => HostsMapState (Except.toOption (.error e)) t := by
      unfold InventoryClient.getEnabledHostsNamesHosts callHostsMap
      exact Prog.Triple.query (fun _ m h => h.fetch (.ok m)) fun _ e h => h.fetch (.error e)
    exact hq.bind fun _ => Prog.Triple.pure_of _ fun _ h => h

theorem sufficientMasterNodes_cached (i : Config) (minMasterNodes : Nat) (rm : List String) (s : Option HostsMap) :
    Prog.Triple env (HostsMapState s) (sufficientMasterNodes i minMasterNodes rm s)
      (fun r t => HostsMapState r.2.2 t) fun t _ => HostsMapCached t := by
  refine (getInventoryHostsMap_cached i s).bind fun r => ?_
  rcases r with _ | hostsMap
  · exact Prog.Triple.pure_of _ fun _ h => h
  unfold K8sClient.listMasterNodes callNodes
  refine Prog.Triple.attempt_query.bind fun r => ?_
  refine Prog.Triple.conseq ?_ (fun t ⟨t₀, h₀, ht⟩ => ht ▸ h₀.listMasterNodes r) (fun _ _ h => h) fun _ _ h => h
  rcases r with _ | nodes
  · exact Prog.Triple.pure_of _ fun _ h => h
  refine (hostsMapState_emits _ (updateReadyMasters_hostsMapFree nodes rm hostsMap)).bind fun r => ?_
  rcases r with ⟨rm', _ | _⟩ <;> exact Prog.Triple.pure_of _ fun _ h => h

end

/-- Over every run of `waitForMasterNodes`, `GetEnabledHostsNamesHosts` is called only until one
call answers, and `ListMasterNodes` only after one has: later polls never refresh the map of
the first answer. -/
theorem waitForMasterNodes_cached (i : Config) (ctx : Context) (minMasterNodes fuel : Nat) (env : Env)
    (h : List Event) : HostsMapCached (waitForMasterNodes i ctx minMasterNodes fuel env h).2 := by
  have hloop : ∀ n (s : List String × Option HostsMap), Prog.Triple env (HostsMapState s.2)
      (Prog.loop (waitForMasterNodes.tick i ctx minMasterNodes) n s) (fun _ => HostsMapCached)
      fun t _ => HostsMapCached t := by
    refine Prog.Triple.loop (fun (s : List String × Option HostsMap) => HostsMapState s.2) (fun s => ?_)
      fun _ _ h => h.1
    unfold waitForMasterNodes.tick
    split
    · exact (hostsMapState_emits s.2 (Prog.Emits.emit (Event.hostsMapFree_of_kind (by decide)))).bind
        fun _ => Prog.Triple.pure_of _ fun _ h => h.1
    refine (sufficientMasterNodes_cached i minMasterNodes s.1 s.2).bind fun r => ?_
    rcases r with ⟨ok, rm', hm'⟩
    dsimp only
    split
    · exact (hostsMapState_emits hm' (Prog.Emits.emit (Event.hostsMapFree_of_kind (by simp [Event.kind])))).bind
        fun _ => Prog.Triple.pure_of _ fun _ h => h.1
    · exact Prog.Triple.pure_of _ fun _ h => h
  exact (hloop fuel ([], none)).run_of ⟨⟨Prog.GuardedBy.nil, Prog.GuardedBy.nil⟩, fun _ h => nomatch h⟩ h

end AssistedInstaller
