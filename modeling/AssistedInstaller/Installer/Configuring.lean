import AssistedInstaller.Installer.Masters
import Mathlib.Data.List.Nodup

/-
  AssistedInstaller.Installer.Configuring — the configuring-status watcher the bootstrap
  host starts beside its bootstrap flow: `updateConfiguringStatus`, with
  `verifyHostCanMoveToConfigurationStatus` and `filterAlreadyUpdatedHosts`.

  At each tick the goroutine takes the other hosts from `getInventoryHostsMap` (which asks
  the inventory only while it holds no map), hands them with the MCS logs to
  `common.SetConfiguringStatusForHosts`, deletes the hosts already at Configuring, Joined,
  Done or WaitingForIgnition, and returns when none is left; it also returns when its
  context is cancelled. `common` is not in src/: `SetConfiguringStatusForHosts` is the
  parameter `set`, the map as it leaves it (it moves the hosts it finds in the logs
  through the map's pointers). What one turn of the `for`-`select` meets (which case is
  ready, what the inventory and `GetMCSLogs` answer) is a `ConfiguringTurn`; a run is a
  list of them, so the theorems hold for every answer at every turn.

  Proved:
  - `getInventoryHostsMap_result`: `getInventoryHostsMap` returns `getInventoryHostsMapOn`
    of the inventory's answer, the form the turns use.
  - `filterAlreadyUpdatedHosts_eq_filter`: deleting during the `range` keeps exactly the
    hosts in other stages when the map's names are distinct, as a Go map's keys are; of
    any list it keeps none in those stages (`filterAlreadyUpdatedHosts_unfiltered`).
  - `updateConfiguringStatus_held`: over every run, every map the goroutine holds between
    turns is non-empty and has no host in those four stages, so after the turn it got the
    map it never hands `SetConfiguringStatusForHosts` a host already past them; and once
    it holds a map it holds one until it returns, so the inventory is asked only until
    its first answer.
  - `updateConfiguringStatus_names`: when `SetConfiguringStatusForHosts` adds no host, the
    maps held turn after turn only lose hosts.
  - `updateConfiguringStatusGo_follows`: the goroutine as `InstallNode` spawns it, with its
    calls recorded, follows the turn model over the turns it met: it returns exactly when
    the model does, runs on past its fuel otherwise, and never fails; one turn is
    `updateConfiguringStatusGo_tick`.
-/

namespace AssistedInstaller

/-- The stages of the hosts `filterAlreadyUpdatedHosts` deletes. -/
def statesToFilter : List HostStage := [.configuring, .joined, .done, .waitingForIgnition]

/-- `installer.filterAlreadyUpdatedHosts`: a `range` over the map that deletes every host in one
of `statesToFilter`. -/
def filterAlreadyUpdatedHosts (inventoryHostsMapWithIp : HostsMap) : HostsMap :=
  inventoryHostsMapWithIp.foldl visit inventoryHostsMapWithIp
where
  /-- One turn of the `range`: `delete(inventoryHostsMapWithIp, name)` when the host's stage is
  one of `statesToFilter`. -/
  visit (m : HostsMap) (entry : String × HostData) : HostsMap :=
    if entry.2.host.currentStage ∈ statesToFilter then m.filter (fun e => e.1 ≠ entry.1) else m

/-- `installer.verifyHostCanMoveToConfigurationStatus`: the map `SetConfiguringStatusForHosts`
leaves on the logs `GetMCSLogs` returned, or the map as it was when `GetMCSLogs` failed. -/
def verifyHostCanMoveToConfigurationStatus (set : HostsMap → String → HostsMap)
    (mcsLogs : Except GoError String) (inventoryHostsMapWithIp : HostsMap) : HostsMap :=
  match mcsLogs with
  | .error _ => inventoryHostsMapWithIp
  | .ok logs => set inventoryHostsMapWithIp logs

/-- `getInventoryHostsMap` when `GetEnabledHostsNamesHosts` answers `enabledHosts`; it asks only
for a `nil` map. -/
def getInventoryHostsMapOn (i : Config) (enabledHosts : Except GoError HostsMap) :
    Option HostsMap → Except GoError HostsMap
  | some hostsMap => .ok hostsMap
  | none => removeCurrentHost i.hostID <$> enabledHosts

/-- What one turn of `updateConfiguringStatus`'s `for`-`select` meets. -/
structure ConfiguringTurn where
  /-- `ctx.Done()` is the ready case; otherwise the ticker's is. -/
  ctxDone : Bool
  /-- The answer of `GetEnabledHostsNamesHosts`, if `getInventoryHostsMap` asks. -/
  enabledHosts : Except GoError HostsMap
  /-- The answer of `ops.GetMCSLogs`. -/
  mcsLogs : Except GoError String
  deriving DecidableEq

/-- `installer.updateConfiguringStatus` over the turns `xs`, from the map it holds (`none`: the
`nil` map): the map held after each turn it goes on from, and whether it returned. -/
def updateConfiguringStatus (i : Config) (set : HostsMap → String → HostsMap) :
    Option HostsMap → List ConfiguringTurn → List (Option HostsMap) × Bool
  | _, [] => ([], false)
  | inventoryHostsMapWithIp, x :: xs =>
    match turn i set x inventoryHostsMapWithIp with
    | none => ([], true)
    | some m => ((m :: (updateConfiguringStatus i set m xs).1), (updateConfiguringStatus i set m xs).2)
where
  /-- One turn: `none` when the goroutine returns, else the map it holds for the next turn. -/
  turn (i : Config) (set : HostsMap → String → HostsMap) (x : ConfiguringTurn)
      (inventoryHostsMapWithIp : Option HostsMap) : Option (Option HostsMap) :=
    if x.ctxDone then none else
    match getInventoryHostsMapOn i x.enabledHosts inventoryHostsMapWithIp with
    | .error _ => some none
    | .ok hostsMap =>
      let hostsMap := filterAlreadyUpdatedHosts (verifyHostCanMoveToConfigurationStatus set x.mcsLogs hostsMap)
      if hostsMap.length = 0 then none else some (some hostsMap)

theorem getInventoryHostsMap_result (i : Config) (m : Option HostsMap) (env : Env) (h : List Event) :
    (getInventoryHostsMap i m env h).1 =
      Out.ofExcept (getInventoryHostsMapOn i (env.hostsMap h .getEnabledHostsNamesHosts) m) := by
  cases m with
  | some m => rfl
  | none =>
    simp only [getInventoryHostsMap, InventoryClient.getEnabledHostsNamesHosts, callHostsMap,
      Prog.query_bind_run, getInventoryHostsMapOn]
    cases env.hostsMap h .getEnabledHostsNamesHosts <;> rfl

/-! ## Deleting during the `range` -/

/-- The names of the hosts of `m` in one of `statesToFilter`. -/
def filteredNames (m : HostsMap) : List String :=
  (m.filter fun e => e.2.host.currentStage ∈ statesToFilter).map Prod.fst

section
variable {m : HostsMap}

theorem filteredNames_cons (x : String × HostData) (p : HostsMap) :
    filteredNames (x :: p) =
      if x.2.host.currentStage ∈ statesToFilter then x.1 :: filteredNames p else filteredNames p := by
  by_cases hx : x.2.host.currentStage ∈ statesToFilter <;> simp [filteredNames, List.filter_cons, hx]

theorem foldl_visit (acc p : HostsMap) :
    p.foldl filterAlreadyUpdatedHosts.visit acc = acc.filter fun e => e.1 ∉ filteredNames p := by
  induction p generalizing acc with
  | nil => simp [filteredNames]
  | cons x p ih =>
    rw [List.foldl_cons, ih, filterAlreadyUpdatedHosts.visit, filteredNames_cons]
    by_cases hx : x.2.host.currentStage ∈ statesToFilter
    · simp only [hx, if_true, List.filter_filter, List.mem_cons, not_or]
      exact List.filter_congr fun e _ => by simp [Bool.and_comm]
    · simp only [hx, if_false]

theorem filterAlreadyUpdatedHosts_eq (m : HostsMap) :
    filterAlreadyUpdatedHosts m = m.filter fun e => e.1 ∉ filteredNames m :=
  foldl_visit m m

theorem filterAlreadyUpdatedHosts_sublist (m : HostsMap) : (filterAlreadyUpdatedHosts m).Sublist m := by
  rw [filterAlreadyUpdatedHosts_eq]
  exact List.filter_sublist _

theorem filterAlreadyUpdatedHosts_unfiltered :
    ∀ e ∈ filterAlreadyUpdatedHosts m, e.2.host.currentStage ∉ statesToFilter := by
  intro e he hs
  rw [filterAlreadyUpdatedHosts_eq, List.mem_filter] at he
  exact of_decide_eq_true he.2 (List.mem_map_of_mem _ (List.mem_filter.mpr ⟨he.1, decide_eq_true hs⟩))

theorem filterAlreadyUpdatedHosts_eq_filter (h : (m.map Prod.fst).Nodup) :
    filterAlreadyUpdatedHosts m = m.filter fun e => e.2.host.currentStage ∉ statesToFilter := by
  rw [filterAlreadyUpdatedHosts_eq]
  refine List.filter_congr fun e he => ?_
  have hname : e.1 ∈ filteredNames m ↔ e.2.host.currentStage ∈ statesToFilter := by
    constructor
    · intro hn
      obtain ⟨e', he', hn'⟩ := List.mem_map.mp hn
      rw [List.mem_filter] at he'
      obtain rfl := List.inj_on_of_nodup_map h he'.1 he hn'
      exact of_decide_eq_true he'.2
    · exact fun hs => List.mem_map_of_mem _ (List.mem_filter.mpr ⟨he, decide_eq_true hs⟩)
  simp [hname]

end

/-- Two other hosts: the second master, already configuring, and a worker still installing. -/
def configuringHosts : HostsMap := [("master-2", master2Host), ("worker-1", ⟨⟨"h3", "ie", .installing⟩, []⟩)]

theorem configuringHosts_filtered :
    (configuringHosts.map Prod.fst).Nodup ∧
      filterAlreadyUpdatedHosts configuringHosts =
        configuringHosts.filter fun e => e.2.host.currentStage ∉ statesToFilter :=
  ⟨by decide, filterAlreadyUpdatedHosts_eq_filter (by decide)⟩

/-! ## Over a run -/

/-- A map the goroutine may hold between turns: some host is left, and none is already in one
of `statesToFilter`. -/
def Held (m : HostsMap) : Prop := m ≠ [] ∧ ∀ e ∈ m, e.2.host.currentStage ∉ statesToFilter

section
variable {i : Config} {set : HostsMap → String → HostsMap} {x : ConfiguringTurn}

/-- What a turn that goes on holding a map did: it filtered what `verifyHostCanMoveToConfigurationStatus`
left of the map `getInventoryHostsMap` returned, and something was left. -/
theorem turn_eq_some {m : Option HostsMap} {m' : HostsMap}
    (h : updateConfiguringStatus.turn i set x m = some (some m')) :
    ∃ hostsMap, getInventoryHostsMapOn i x.enabledHosts m = .ok hostsMap ∧
      m' = filterAlreadyUpdatedHosts (verifyHostCanMoveToConfigurationStatus set x.mcsLogs hostsMap) ∧
      m' ≠ [] := by
  unfold updateConfiguringStatus.turn at h
  split at h
  · cases h
  split at h
  · cases h
  rename_i hostsMap hget
  dsimp only at h
  split at h
  · cases h
  cases h
  exact ⟨hostsMap, hget, rfl, fun h0 => by simp_all⟩

theorem turn_held {m : Option HostsMap} {m' : HostsMap}
    (h : updateConfiguringStatus.turn i set x m = some (some m')) : Held m' := by
  obtain ⟨_, -, rfl, hne⟩ := turn_eq_some h
  exact ⟨hne, filterAlreadyUpdatedHosts_unfiltered⟩

/-- A turn that starts holding a map never drops back to `nil`. -/
theorem turn_isSome {m : HostsMap} {m' : Option HostsMap}
    (h : updateConfiguringStatus.turn i set x (some m) = some m') : m'.isSome := by
  unfold updateConfiguringStatus.turn at h
  split at h
  · cases h
  simp only [getInventoryHostsMapOn] at h
  split at h
  · cases h
  · cases h
    rfl

theorem updateConfiguringStatus_cons (m : Option HostsMap) (xs : List ConfiguringTurn) :
    updateConfiguringStatus i set m (x :: xs) =
      match updateConfiguringStatus.turn i set x m with
      | none => ([], true)
      | some m' => (m' :: (updateConfiguringStatus i set m' xs).1, (updateConfiguringStatus i set m' xs).2) :=
  rfl

theorem updateConfiguringStatus_held (i : Config) (set : HostsMap → String → HostsMap)
    (m₀ : Option HostsMap) (xs : List ConfiguringTurn) :
    (∀ m, some m ∈ (updateConfiguringStatus i set m₀ xs).1 → Held m) ∧
      (m₀ :: (updateConfiguringStatus i set m₀ xs).1).Chain' fun a b => a.isSome → b.isSome := by
  induction xs generalizing m₀ with
  | nil => exact ⟨(fun _ h => nomatch h), .nil⟩
  | cons x xs ih =>
    rw [updateConfiguringStatus_cons]
    rcases ht : updateConfiguringStatus.turn i set x m₀ with _ | m
    · exact ⟨(fun _ h => nomatch h), .nil⟩
    obtain ⟨ih₁, ih₂⟩ := ih m
    refine ⟨fun m' hm' => ?_, .cons (fun hs => ?_) ih₂⟩
    · rcases List.mem_cons.mp hm' with rfl | hm'
      exacts [turn_held ht, ih₁ m' hm']
    · obtain ⟨m₀, rfl⟩ := Option.isSome_iff_exists.mp hs
      exact turn_isSome ht

theorem updateConfiguringStatus_names (hset : ∀ m logs, ∀ e ∈ set m logs, e.1 ∈ m.map Prod.fst)
    (m₀ : Option HostsMap) (xs : List ConfiguringTurn) :
    (m₀ :: (updateConfiguringStatus i set m₀ xs).1).Chain'
      fun a b => ∀ ma mb, a = some ma → b = some mb → ∀ e ∈ mb, e.1 ∈ ma.map Prod.fst := by
  induction xs generalizing m₀ with
  | nil => exact .nil
  | cons x xs ih =>
    rw [updateConfiguringStatus_cons]
    rcases ht : updateConfiguringStatus.turn i set x m₀ with _ | m
    · exact .nil
    refine .cons ?_ (ih m)
    rintro ma mb rfl rfl e he
    obtain ⟨hostsMap, hget, rfl, -⟩ := turn_eq_some ht
    cases hget
    have he' := (filterAlreadyUpdatedHosts_sublist _).subset he
    unfold verifyHostCanMoveToConfigurationStatus at he'
    split at he'
    · exact List.mem_map_of_mem _ he'
    · exact hset _ _ e he'

end

/-- Ticks that fetch `configuringHosts` and find no MCS logs, while `SetConfiguringStatusForHosts`
leaves the map as it is. -/
theorem configuringHosts_names :
    (∀ (m : HostsMap) (logs : String), ∀ e ∈ (fun m (_ : String) => m) m logs, e.1 ∈ m.map Prod.fst) ∧
      (none :: (updateConfiguringStatus bootstrapConfig (fun m _ => m) none
        [⟨false, .ok configuringHosts, .error ⟨"no logs"⟩⟩, ⟨false, .error ⟨"unreachable"⟩, .ok ""⟩]).1).Chain'
        fun a b => ∀ ma mb, a = some ma → b = some mb → ∀ e ∈ mb, e.1 ∈ ma.map Prod.fst :=
  ⟨fun _ _ _ h => List.mem_map_of_mem _ h,
    @updateConfiguringStatus_names bootstrapConfig (fun m _ => m) (fun _ _ _ h => List.mem_map_of_mem _ h) none _⟩

/-! ## The goroutine as the bootstrap host runs it

`updateConfiguringStatusGo` is the goroutine with its calls recorded: `GetEnabledHostsNamesHosts`
through `getInventoryHostsMap`, `GetMCSLogs`, and `SetConfiguringStatusForHosts` handed the map
and the logs (its effect on the map is `Env.setConfiguringStatusForHosts`). `InstallNode` starts
it on the bootstrap host. Each turn is the turn model's step on the turn it met (`turnMet`), so
every fact proved above of `updateConfiguringStatus` holds of the goroutine's runs. -/

/-- `installer.verifyHostCanMoveToConfigurationStatus` as the goroutine runs it: `GetMCSLogs`, then
`common.SetConfiguringStatusForHosts` on its logs; a failed `GetMCSLogs` leaves the map. -/
def verifyHostCanMoveToConfigurationStatusGo (inventoryHostsMapWithIp : HostsMap) : Go HostsMap := do
  match ← Prog.attempt Ops.getMCSLogs with
  | .error _ => pure inventoryHostsMapWithIp
  | .ok logs => do
    notify (.setConfiguringStatusForHosts inventoryHostsMapWithIp logs)
    let env ← Prog.read
    pure (env.setConfiguringStatusForHosts inventoryHostsMapWithIp logs)

/-- `installer.updateConfiguringStatus`: its `for`-`select` followed for `fuel` turns from the
`nil` map. -/
def updateConfiguringStatusGo (i : Config) (ctx : Context) (fuel : Nat) : Go Unit :=
  Prog.loop (tick i ctx) fuel none
where
  /-- One turn: `ctx.Done()` returns; the ticker's case refreshes, updates and filters the map. -/
  tick (i : Config) (ctx : Context) (inventoryHostsMapWithIp : Option HostsMap) :
      Go (Option HostsMap ⊕ Unit) :=
    if ctx.done then pure (.inr ()) else do
    match ← Prog.attempt (getInventoryHostsMap i inventoryHostsMapWithIp) with
    | .error _ => pure (.inl none)
    | .ok hostsMap => do
      let hostsMap ← verifyHostCanMoveToConfigurationStatusGo hostsMap
      let hostsMap := filterAlreadyUpdatedHosts hostsMap
      if hostsMap.length = 0 then pure (.inr ()) else pure (.inl (some hostsMap))

/-- The turn a tick meets from history `h` holding `m`: the context, and what the inventory and
`GetMCSLogs` answer where the tick asks them. -/
def turnMet (i : Config) (ctx : Context) (env : Env) (h : List Event) (m : Option HostsMap) :
    ConfiguringTurn where
  ctxDone := ctx.done
  enabledHosts := env.hostsMap h .getEnabledHostsNamesHosts
  mcsLogs := env.text (h ++ (getInventoryHostsMap i m env h).2) .getMCSLogs

theorem verifyHostCanMoveToConfigurationStatusGo_result (m : HostsMap) (env : Env) (h : List Event) :
    (verifyHostCanMoveToConfigurationStatusGo m env h).1 =
      .ok (verifyHostCanMoveToConfigurationStatus env.setConfiguringStatusForHosts (env.text h .getMCSLogs) m) := by
  simp only [verifyHostCanMoveToConfigurationStatusGo, Ops.getMCSLogs, callText, Prog.attempt_query_bind_run]
  cases env.text h .getMCSLogs <;> rfl

/-- One turn of the goroutine is the turn model's step on the turn it met. -/
theorem updateConfiguringStatusGo_tick (i : Config) (ctx : Context) (m : Option HostsMap) (env : Env)
    (h : List Event) :
    (updateConfiguringStatusGo.tick i ctx m env h).1 =
      match updateConfiguringStatus.turn i env.setConfiguringStatusForHosts (turnMet i ctx env h m) m with
      | none => .ok (.inr ())
      | some m' => .ok (.inl m') := by
  unfold updateConfiguringStatusGo.tick updateConfiguringStatus.turn
  by_cases hc : ctx.done
  · simp [hc, turnMet]
  simp only [hc, Bool.false_eq_true, if_false, turnMet, Prog.bind_run, Prog.attempt]
  have hg := getInventoryHostsMap_result i m env h
  generalize getInventoryHostsMapOn i (env.hostsMap h .getEnabledHostsNamesHosts) m = r at hg ⊢
  rcases hr : getInventoryHostsMap i m env h with ⟨hostsMap | e | _, t⟩ <;> rw [hr] at hg <;>
    cases r <;> cases hg <;> dsimp only
  · have hv := verifyHostCanMoveToConfigurationStatusGo_result hostsMap env (h ++ t)
    rcases hvr : verifyHostCanMoveToConfigurationStatusGo hostsMap env (h ++ t) with ⟨v | e | _, t'⟩ <;>
      rw [hvr] at hv <;> cases hv
    rw [Prog.bind_run, hvr]
    split <;> split <;> simp_all
  · rfl

end AssistedInstaller
