import AssistedInstaller.Installer.Basic

/-
  AssistedInstaller.Installer.Cleanup — `cleanupInstallDevice` and `cleanupDevice`:
  the LVM, RAID and signature teardown of the install device before the image is
  written.

  `InstallDevicePlan d t r` is the device teardown, written as what may be called in
  order with the answers: `cleanupDevice(d)` (`GetVGByPV(d)`, then `RemoveVG(vg)` and
  `RemovePV(d)` only for a non-empty `vg`), `IsRaidMember(d)`, for a RAID member
  `GetRaidDevices(d)`, `cleanupDevice(r)` for each `r` in order and
  `CleanRaidMembership(d)`, finally `Wipefs(d)`, stopping at the first error, which is
  the result `r`.
  - `cleanupInstallDevice_plan`: with either skip flag no call is made and the result is
    nil; otherwise every run follows the plan, ends right after the first failing call
    with that call's error, calls `Wipefs(d)` exactly when no earlier call failed, and
    returns nil exactly when `Wipefs(d)` did.
-/

namespace AssistedInstaller

/-- `installer.cleanupDevice`. -/
def cleanupDevice (device : String) : Go Unit := do
  let vgName ← Ops.getVGByPV device
  if vgName ≠ "" then
    Ops.removeVG vgName
    Ops.removePV device

/-- `installer.cleanupInstallDevice`. -/
def cleanupInstallDevice (i : Config) : Go Unit :=
  if i.dryRunEnabled || i.skipInstallationDiskCleanup then pure ()
  else do
    cleanupDevice i.device
    if ← Ops.isRaidMember i.device then
      let devices ← Ops.getRaidDevices i.device
      devices.forM cleanupDevice
      Ops.cleanRaidMembership i.device
    Ops.wipefs i.device

/-! ## The plan -/

/-- Cleaning one device: `GetVGByPV(d)`, then `RemoveVG(vg)` and `RemovePV(d)` only when `vg`
is not empty, stopping at the first error. -/
inductive DevicePlan (d : String) : List Event → Except GoError Unit → Prop
  | vgFailed (e : GoError) : DevicePlan d [.call (.getVGByPV d) (.text (.error e))] (.error e)
  | noVG : DevicePlan d [.call (.getVGByPV d) (.text (.ok ""))] (.ok ())
  | removeVGFailed (vg : String) (e : GoError) : vg ≠ "" →
      DevicePlan d [.call (.getVGByPV d) (.text (.ok vg)), .call (.removeVG vg) (.unit (.error e))]
        (.error e)
  | removed (vg : String) (r : Except GoError Unit) : vg ≠ "" →
      DevicePlan d [.call (.getVGByPV d) (.text (.ok vg)), .call (.removeVG vg) (.unit (.ok ())),
        .call (.removePV d) (.unit r)] r

/-- Cleaning each device of a list in order, stopping at the first failure. -/
inductive DevicesPlan : List String → List Event → Except GoError Unit → Prop
  | nil : DevicesPlan [] [] (.ok ())
  | failed (d : String) (ds : List String) (t : List Event) (e : GoError) :
      DevicePlan d t (.error e) → DevicesPlan (d :: ds) t (.error e)
  | next (d : String) (ds : List String) (t₁ t₂ : List Event) (r : Except GoError Unit) :
      DevicePlan d t₁ (.ok ()) → DevicesPlan ds t₂ r → DevicesPlan (d :: ds) (t₁ ++ t₂) r

/-- After `IsRaidMember(d)` answered `raid`: for a RAID member `GetRaidDevices(d)`, each device
cleaned in order and `CleanRaidMembership(d)`; then `Wipefs(d)`; stopping at the first error. -/
inductive RaidPlan (d : String) : Bool → List Event → Except GoError Unit → Prop
  | notRaid (r : Except GoError Unit) : RaidPlan d false [.call (.wipefs d) (.unit r)] r
  | listFailed (e : GoError) :
      RaidPlan d true [.call (.getRaidDevices d) (.strings (.error e))] (.error e)
  | deviceFailed (devs : List String) (t : List Event) (e : GoError) :
      DevicesPlan devs t (.error e) →
      RaidPlan d true (.call (.getRaidDevices d) (.strings (.ok devs)) :: t) (.error e)
  | leaveFailed (devs : List String) (t : List Event) (e : GoError) :
      DevicesPlan devs t (.ok ()) →
      RaidPlan d true (.call (.getRaidDevices d) (.strings (.ok devs)) :: t ++
        [.call (.cleanRaidMembership d) (.unit (.error e))]) (.error e)
  | cleaned (devs : List String) (t : List Event) (r : Except GoError Unit) :
      DevicesPlan devs t (.ok ()) →
      RaidPlan d true (.call (.getRaidDevices d) (.strings (.ok devs)) :: t ++
        [.call (.cleanRaidMembership d) (.unit (.ok ())), .call (.wipefs d) (.unit r)]) r

/-- The teardown of the install device `d`: the calls in order with their answers. -/
inductive InstallDevicePlan (d : String) : List Event → Except GoError Unit → Prop
  | deviceFailed (t : List Event) (e : GoError) :
      DevicePlan d t (.error e) → InstallDevicePlan d t (.error e)
  | checked (t : List Event) (raid : Bool) (t' : List Event) (r : Except GoError Unit) :
      DevicePlan d t (.ok ()) → RaidPlan d raid t' r →
      InstallDevicePlan d (t ++ .call (.isRaidMember d) (.flag raid) :: t') r

/-! ## The code follows the plan -/

theorem cleanupDevice_ends (d : String) : Prog.Ends (cleanupDevice d) (DevicePlan d) := fun env h => by
  simp only [cleanupDevice, Ops.getVGByPV, Ops.removeVG, Ops.removePV, callText, callUnit,
    Prog.query_bind_run]
  split
  · rename_i vg _
    by_cases hvg : vg = ""
    · subst hvg
      exact ⟨.ok (), rfl, .noVG⟩
    · simp only [hvg, ne_eq, not_false_eq_true, if_true, Prog.query_bind_run, Prog.query_run]
      split
      · exact ⟨_, rfl, by simpa using DevicePlan.removed vg _ hvg⟩
      · rename_i e _
        exact ⟨.error e, rfl, .removeVGFailed vg e hvg⟩
  · rename_i e _
    exact ⟨.error e, rfl, .vgFailed e⟩

theorem cleanupDevices_ends (ds : List String) : Prog.Ends (ds.forM cleanupDevice) (DevicesPlan ds) := by
  induction ds with
  | nil => exact (Prog.Ends.pure _).mono fun t r ⟨ht, hr⟩ => by subst ht hr; exact .nil
  | cons d ds ih =>
    rw [List.forM_cons']
    refine ((cleanupDevice_ends d).bind fun _ => ih).mono fun t r h => ?_
    rcases h with ⟨e, rfl, hp⟩ | ⟨⟨⟩, t₁, t₂, rfl, hp, hq⟩
    · exact .failed d ds t e hp
    · exact .next d ds t₁ t₂ r hp hq

theorem raidTail_ends (d : String) (raid : Bool) :
    Prog.Ends (if raid = true then do
        let devices ← Ops.getRaidDevices d
        devices.forM cleanupDevice
        Ops.cleanRaidMembership d
        Ops.wipefs d
      else do
        pure PUnit.unit
        Ops.wipefs d) (RaidPlan d raid) := by
  cases raid
  · rw [if_neg Bool.false_ne_true]
    refine ((Prog.Ends.pure _).bind fun _ => ends_callUnit).mono fun t r h => ?_
    rcases h with ⟨e, rfl, ⟨-, h⟩⟩ | ⟨_, t₁, t₂, rfl, ⟨rfl, -⟩, rfl⟩
    · cases h
    · exact .notRaid r
  · rw [if_pos rfl]
    refine (ends_callStrings.bind fun devs => (cleanupDevices_ends devs).bind fun _ =>
      ends_callUnit.bind fun _ => ends_callUnit).mono fun t r h => ?_
    rcases h with ⟨e, rfl, rfl⟩ | ⟨devs, t₁, t₂, rfl, rfl, h⟩
    · exact .listFailed e
    rcases h with ⟨e, rfl, hp⟩ | ⟨⟨⟩, t₂, t₃, rfl, hp, h⟩
    · exact .deviceFailed devs t₂ e hp
    rcases h with ⟨e, rfl, rfl⟩ | ⟨⟨⟩, t₃, t₄, rfl, rfl, rfl⟩
    · simpa using RaidPlan.leaveFailed devs t₂ e hp
    · simpa using RaidPlan.cleaned devs t₂ r hp

theorem cleanupInstallDevice_ends (i : Config)
    (hf : ¬(i.dryRunEnabled = true ∨ i.skipInstallationDiskCleanup = true)) :
    Prog.Ends (cleanupInstallDevice i) (InstallDevicePlan i.device) := by
  have hflags : (i.dryRunEnabled || i.skipInstallationDiskCleanup) = false := by simpa using hf
  simp only [cleanupInstallDevice, hflags, Bool.false_eq_true, if_false]
  refine ((cleanupDevice_ends _).bind fun _ => ends_callFlag.bind fun raid =>
    raidTail_ends i.device raid).mono fun t r h => ?_
  rcases h with ⟨e, rfl, hp⟩ | ⟨⟨⟩, t₁, t₂, rfl, hp, h⟩
  · exact .deviceFailed t e hp
  rcases h with ⟨e, rfl, ⟨_, h, -⟩⟩ | ⟨raid, t₂, t₃, rfl, ⟨_, h, rfl⟩, hq⟩
  · cases h
  · cases h
    exact .checked t₁ raid t₃ r hp hq

/-! ## What the plan implies -/

/-- The calls stop right after the first one that failed, whose error is the result; on nil no
call failed. -/
def FailStop (t : List Event) : Except GoError Unit → Prop
  | .ok _ => ∀ x ∈ t, x.error? = none
  | .error e => ∃ pre x, t = pre ++ [x] ∧ x.error? = some e ∧ ∀ y ∈ pre, y.error? = none

/-- No `Wipefs` call. -/
def NoWipefs (t : List Event) : Prop := ∀ x ∈ t, ∀ d r, x ≠ .call (.wipefs d) (.unit r)

/-- A run of `cleanupInstallDevice` on `d` with calls `t` and result `r`: it follows the teardown,
stops at the first error, wipes exactly when nothing failed before, and succeeds with the wipe. -/
structure CleanupOutcome (d : String) (t : List Event) (r : Except GoError Unit) : Prop where
  plan : InstallDevicePlan d t r
  failStop : FailStop t r
  wipefs_iff : (∃ r', Event.call (.wipefs d) (.unit r') ∈ t) ↔
    ∀ x ∈ t, (∀ r', x ≠ .call (.wipefs d) (.unit r')) → x.error? = none
  ok_iff : r = .ok () ↔ Event.call (.wipefs d) (.unit (.ok ())) ∈ t

section
variable {t t₁ t₂ : List Event} {r : Except GoError Unit}

theorem FailStop.append (h₁ : FailStop t₁ (.ok ())) (h₂ : FailStop t₂ r) : FailStop (t₁ ++ t₂) r := by
  cases r with
  | ok => exact fun x hx => (List.mem_append.mp hx).elim (h₁ x) (h₂ x)
  | error e =>
    obtain ⟨pre, x, rfl, hx, hpre⟩ := h₂
    exact ⟨t₁ ++ pre, x, by simp, hx, fun y hy => (List.mem_append.mp hy).elim (h₁ y) (hpre y)⟩

theorem FailStop.unit (c : Call) (r : Except GoError Unit) : FailStop [.call c (.unit r)] r := by
  cases r with
  | ok => simp [FailStop, Event.error?]
  | error e => exact ⟨[], _, rfl, rfl, by simp⟩

theorem FailStop.ok_call (x : Event) (hx : x.error? = none) : FailStop [x] (.ok ()) := by
  simpa [FailStop] using hx

theorem FailStop.error_call (x : Event) (e : GoError) (hx : x.error? = some e) : FailStop [x] (.error e) :=
  ⟨[], x, rfl, hx, by simp⟩

theorem NoWipefs.append (h₁ : NoWipefs t₁) (h₂ : NoWipefs t₂) : NoWipefs (t₁ ++ t₂) :=
  fun x hx => (List.mem_append.mp hx).elim (h₁ x) (h₂ x)

theorem DevicePlan.outcome {d : String} (h : DevicePlan d t r) : NoWipefs t ∧ FailStop t r := by
  cases h with
  | vgFailed e => exact ⟨by simp [NoWipefs], .error_call _ e rfl⟩
  | noVG => exact ⟨by simp [NoWipefs], .ok_call _ rfl⟩
  | removeVGFailed vg e _ =>
    exact ⟨by simp [NoWipefs], (FailStop.ok_call (.call (.getVGByPV d) (.text (.ok vg))) rfl).append
      (.error_call (.call (.removeVG vg) _) e rfl)⟩
  | removed vg r _ =>
    refine ⟨by simp [NoWipefs], ?_⟩
    exact (FailStop.ok_call (.call (.getVGByPV d) (.text (.ok vg))) rfl).append
      ((FailStop.ok_call (.call (.removeVG vg) (.unit (.ok ()))) rfl).append (.unit _ r))

theorem DevicesPlan.outcome {ds : List String} (h : DevicesPlan ds t r) : NoWipefs t ∧ FailStop t r := by
  induction h with
  | nil => exact ⟨by simp [NoWipefs], by simp [FailStop]⟩
  | failed d ds t e hd => exact hd.outcome
  | next d ds t₁ t₂ r hd _ ih => exact ⟨hd.outcome.1.append ih.1, hd.outcome.2.append ih.2⟩

/-- Either `Wipefs(d)` ends the calls, every call before it having succeeded, and its answer
is the result; or it is never called and the calls end with the failure returned. -/
def WipefsEnds (d : String) (t : List Event) (r : Except GoError Unit) : Prop :=
  (∃ pre, t = pre ++ [.call (.wipefs d) (.unit r)] ∧ NoWipefs pre ∧ FailStop pre (.ok ())) ∨
    (∃ e, r = .error e ∧ NoWipefs t ∧ FailStop t r)

theorem WipefsEnds.cons {d : String} (x : Event) (hx : x.error? = none) (hw : ∀ d r, x ≠ .call (.wipefs d) (.unit r))
    (h : WipefsEnds d t r) : WipefsEnds d (x :: t) r := by
  have hs : NoWipefs [x] ∧ FailStop [x] (.ok ()) := ⟨by simpa [NoWipefs] using hw, .ok_call x hx⟩
  rcases h with ⟨pre, rfl, hn, hf⟩ | ⟨e, rfl, hn, hf⟩
  · exact .inl ⟨x :: pre, rfl, hs.1.append hn, hs.2.append hf⟩
  · exact .inr ⟨e, rfl, hs.1.append hn, hs.2.append hf⟩

theorem WipefsEnds.prepend {d : String} (h₁ : NoWipefs t₁ ∧ FailStop t₁ (.ok ())) (h : WipefsEnds d t₂ r) :
    WipefsEnds d (t₁ ++ t₂) r := by
  rcases h with ⟨pre, rfl, hn, hf⟩ | ⟨e, rfl, hn, hf⟩
  · exact .inl ⟨t₁ ++ pre, by simp, h₁.1.append hn, h₁.2.append hf⟩
  · exact .inr ⟨e, rfl, h₁.1.append hn, h₁.2.append hf⟩

theorem WipefsEnds.failed {d : String} (e : GoError) (h : NoWipefs t ∧ FailStop t (.error e)) :
    WipefsEnds d t (.error e) :=
  .inr ⟨e, rfl, h⟩

theorem RaidPlan.wipefsEnds {d : String} {raid : Bool} (h : RaidPlan d raid t r) : WipefsEnds d t r := by
  cases h with
  | notRaid r => exact .inl ⟨[], rfl, by simp [NoWipefs], by simp [FailStop]⟩
  | listFailed e => exact .failed e ⟨by simp [NoWipefs], .error_call _ e rfl⟩
  | deviceFailed devs t e hd =>
    exact .cons _ rfl (by simp) (.failed e hd.outcome)
  | leaveFailed devs t e hd =>
    refine .cons _ rfl (by simp) (.prepend hd.outcome (.failed e ⟨by simp [NoWipefs], .error_call _ e rfl⟩))
  | cleaned devs t r hd =>
    refine .cons _ rfl (by simp) (.prepend hd.outcome
      (.cons _ rfl (by simp) (.inl ⟨[], rfl, by simp [NoWipefs], by simp [FailStop]⟩)))

theorem InstallDevicePlan.wipefsEnds {d : String} (h : InstallDevicePlan d t r) : WipefsEnds d t r := by
  cases h with
  | deviceFailed t e hd => exact .failed e hd.outcome
  | checked t raid t' r hd hr => exact .prepend hd.outcome (.cons _ rfl (by simp) hr.wipefsEnds)

theorem InstallDevicePlan.outcome {d : String} (h : InstallDevicePlan d t r) : CleanupOutcome d t r := by
  refine ⟨h, ?_, ?_, ?_⟩ <;> rcases h.wipefsEnds with ⟨pre, rfl, hn, hf⟩ | ⟨e, rfl, hn, hf⟩
  · exact hf.append (.unit _ r)
  · exact hf
  · refine iff_of_true ⟨r, by simp⟩ fun x hx hne => ?_
    rcases List.mem_append.mp hx with hx | hx
    · exact hf x hx
    · simp only [List.mem_singleton] at hx
      exact absurd hx (hne r)
  · refine iff_of_false (fun ⟨r', hr'⟩ => hn _ hr' d r' rfl) fun hall => ?_
    obtain ⟨pre, x, rfl, hx, -⟩ := hf
    have := hall x (by simp) fun r' => by rintro rfl; exact hn _ (by simp) d r' rfl
    simp [this] at hx
  · have hpre : Event.call (.wipefs d) (.unit (.ok ())) ∉ pre := fun hm => hn _ hm d _ rfl
    simp [hpre, eq_comm]
  · exact iff_of_false (by simp) fun hm => hn _ hm d _ rfl

end

/-! ## Every run follows the teardown -/

theorem cleanupInstallDevice_plan (i : Config) :
    ((i.dryRunEnabled = true ∨ i.skipInstallationDiskCleanup = true) →
      ∀ env h, cleanupInstallDevice i env h = (.ok (), [])) ∧
    (¬(i.dryRunEnabled = true ∨ i.skipInstallationDiskCleanup = true) →
      Prog.Ends (cleanupInstallDevice i) (CleanupOutcome i.device)) := by
  refine ⟨fun hf env h => ?_, fun hf => (cleanupInstallDevice_ends i hf).mono fun _ _ h => h.outcome⟩
  have hflags : (i.dryRunEnabled || i.skipInstallationDiskCleanup) = true := by simpa using hf
  simp [cleanupInstallDevice, hflags]

/-- On return, the device was wiped, unless a flag skipped the cleanup. -/
theorem cleanupInstallDevice_returns (i : Config) :
    Prog.Returns (fun _ t => i.dryRunEnabled = true ∨ i.skipInstallationDiskCleanup = true ∨
      Event.call (.wipefs i.device) (.unit (.ok ())) ∈ t) (cleanupInstallDevice i) := by
  by_cases hf : i.dryRunEnabled = true ∨ i.skipInstallationDiskCleanup = true
  · exact Prog.Returns.any.mono fun _ _ _ => hf.elim .inl (.inr ∘ .inl)
  · intro env h a ha
    obtain ⟨r, hr, hp⟩ := cleanupInstallDevice_ends i hf env h
    rw [ha] at hr
    rcases r with _ | ⟨⟨⟩⟩ <;> simp only [Out.ofExcept, reduceCtorEq] at hr
    exact .inr (.inr (hp.outcome.ok_iff.mp rfl))

/-! ## Only disk calls -/

theorem cleanupDevice_kinds (d : String) : Kinds [.other] (cleanupDevice d) := by
  refine Prog.Emits.bind (kinds_callText (by simp [Call.kind])) fun vg => ?_
  split
  · exact Prog.Emits.bind (kinds_callUnit (by simp [Call.kind])) fun _ => kinds_callUnit (by simp [Call.kind])
  · exact Prog.Emits.pure _

theorem cleanupInstallDevice_kinds (i : Config) : Kinds [.other] (cleanupInstallDevice i) := by
  unfold cleanupInstallDevice
  split
  · exact Prog.Emits.pure _
  refine Prog.Emits.bind (cleanupDevice_kinds _) fun _ =>
    Prog.Emits.bind (kinds_callFlag (by simp [Call.kind])) fun raid => ?_
  have hdevs (devs : List String) : Kinds [.other] (devs.forM cleanupDevice) := by
    induction devs with
    | nil => exact Prog.Emits.pure _
    | cons d ds ih => exact Prog.Emits.bind (cleanupDevice_kinds d) fun _ => ih
  split
  · exact Prog.Emits.bind (kinds_callStrings (by simp [Call.kind])) fun devs =>
      Prog.Emits.bind (hdevs devs) fun _ => Prog.Emits.bind (kinds_callUnit (by simp [Call.kind])) fun _ =>
        kinds_callUnit (by simp [Call.kind])
  · exact Prog.Emits.bind (Prog.Emits.pure _) fun _ => kinds_callUnit (by simp [Call.kind])

end AssistedInstaller
