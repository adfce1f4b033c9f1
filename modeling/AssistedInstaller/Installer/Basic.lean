import AssistedInstaller.Model.Collaborators

/-
  AssistedInstaller.Installer.Basic — the installer's small shared methods:
  `UpdateHostInstallProgress`, `FormatDisks`, `getInventoryHostsMap`, and the
  trace lemmas every later module uses.

  `updateHostInstallProgress` records one `progress` event, carrying the inventory's
  answer when the host has an id (`reportedStage` picks the stages actually sent).
  `getInventoryHostsMap` fetches the enabled hosts once and drops the first entry,
  in iteration order, whose host is the current one (`removeCurrentHost`).
  `FormatDisks` is best effort: each `FormatDisk` call is discarded.
-/

namespace AssistedInstaller

/-- `installer.UpdateHostInstallProgress`. -/
def updateHostInstallProgress (i : Config) (newStage : HostStage) (info : String) : Go Unit :=
  fun env h => (.ok (), [.progress newStage info
    (if i.hostID ≠ "" then
      some (env.unit h (.updateHostInstallProgress i.infraEnvID i.hostID newStage info))
    else none)])

/-- `installer.FormatDisks`: best effort, each failure only logged. -/
def formatDisks (i : Config) : Go Unit :=
  i.disksToFormat.forM fun disk => Prog.discard (Ops.formatDisk disk)

/-- "no need for current host": delete the first entry, in iteration order, whose host is
the current one. -/
def removeCurrentHost (hostID : String) (hostsMap : HostsMap) : HostsMap :=
  match hostsMap.find? (fun e => e.2.host.id = hostID) with
  | some (name, _) => hostsMap.filter (fun e => e.1 ≠ name)
  | none => hostsMap

/-- `installer.getInventoryHostsMap`; `none` is the `nil` map (not fetched yet). -/
def getInventoryHostsMap (i : Config) : Option HostsMap → Go HostsMap
  | some hostsMap => pure hostsMap
  | none => do
    let hostsMap ← InventoryClient.getEnabledHostsNamesHosts
    pure (removeCurrentHost i.hostID hostsMap)

/-- A call of `c`, whatever it answered. -/
def Event.Calls (c : Call) (x : Event) : Prop := ∃ r, x = .call c r

theorem Event.not_calls_of_kind {x : Event} {c : Call} (hx : x.kind ≠ c.kind) : ¬x.Calls c :=
  fun ⟨_, he⟩ => hx (he ▸ rfl)

/-! ## Reported stages -/

/-- The stage of a report the installer sent to the inventory for its own host. -/
def Event.reportedStage : Event → Option HostStage
  | .progress stage _ (some _) => some stage
  | _ => none

/-- What `m` reports of the host's own stages: a prefix of `L`, all of it when `m` returns. -/
abbrev Reports (L : List HostStage) {α : Type} (m : Go α) : Prop := Prog.Reports Event.reportedStage L m

theorem reports_nil {α : Type} {ks : List Kind} {m : Go α} (hm : Kinds ks m)
    (hks : ∀ st, Kind.progress st ∉ ks) : Reports [] m :=
  Prog.Reports.of_emits (Prog.Emits.mono hm fun x hx => by
    rcases x with ⟨c, r⟩ | ⟨st, info, sent⟩ | _ | _ | _ | _ <;> simp_all [Event.kind, Event.reportedStage])

theorem reports_of_kinds {α : Type} {m : Go α} (hm : Kinds [.other] m) : Reports [] m :=
  reports_nil hm (by simp)

theorem updateHostInstallProgress_reports (i : Config) (st : HostStage) (info : String)
    (hi : i.hostID ≠ "") : Reports [st] (updateHostInstallProgress i st info) := fun env h => by
  simp [updateHostInstallProgress, hi, Event.reportedStage]

theorem updateHostInstallProgress_kinds (i : Config) (st : HostStage) (info : String) :
    Kinds [.progress st] (updateHostInstallProgress i st info) := fun env h x hx => by
  simp only [updateHostInstallProgress, List.mem_singleton] at hx
  simp [hx, Event.kind]

theorem formatDisks_kinds (i : Config) : Kinds [.other] (formatDisks i) := by
  unfold formatDisks
  induction i.disksToFormat with
  | nil => exact Prog.Emits.pure _
  | cons d ds ih =>
    exact Prog.Emits.bind (Prog.Emits.discard (kinds_callUnit (kind_mem_other (by rfl)))) fun _ => ih

theorem getInventoryHostsMap_kinds (i : Config) (m : Option HostsMap) :
    Kinds [.enabledHosts] (getInventoryHostsMap i m) := by
  cases m with
  | some m => exact Prog.Emits.pure _
  | none => exact Prog.Emits.bind (kinds_callHostsMap (List.mem_singleton_self _)) fun _ => Prog.Emits.pure _

/-- The error a call answered, if it failed. -/
def Event.error? : Event → Option GoError
  | .call _ (.unit (.error e)) | .call _ (.text (.error e)) | .call _ (.strings (.error e)) => some e
  | _ => none

end AssistedInstaller
