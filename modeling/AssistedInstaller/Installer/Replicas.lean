import AssistedInstaller.Installer.NodeEnd

/-
  AssistedInstaller.Installer.Replicas — the control plane replicas patch of the
  bootstrap host. Below 4.7, with OVNKubernetes and three control plane replicas,
  `waitForMinMasterNodes` patches `controlPlane.replicas` down while
  `waitForMasterNodes` waits, then reverts it.

  The bracket is a protocol over the events of a run (`patchStep`): the patch call
  comes while nothing is patched; once it answered nil, the revert is due the moment
  `waitForMasterNodes` returns, and nothing of what follows the wait in
  `waitForControlPlane` and `InstallNode` (`afterMinMasterNodes`) may come before a
  revert that answered nil. `patchRun` runs a trace through the protocol, and
  `PatchBracket.of_patchRun` reads off what acceptance says of the trace itself.
  Every event but the patch, the revert and the wait's return leaves a settled
  protocol where it is, so a run is followed with triples over the trace so far
  (`PatchTrace`), and only `waitForMinMasterNodes` moves the state.

  Proved, over every run, every environment and every number of poll turns:
  - `waitForMasterNodes_exit`: the wait returns exactly at its exit event, its last.
  - `shouldControlPlaneReplicasPatchApplied_iff`: the decision says patch exactly when
    `IsVersionLessThan47` answered true and its last calls found `OVNKubernetes` and 3
    control plane replicas (`PatchChecked`).
  - `waitForMinMasterNodes_patch`: from an unpatched trace it leaves the protocol
    settled when it returns (nothing patched, or reverted with nil), and never stops
    between the wait's return and the revert; `waitForMinMasterNodes_decision`: after
    the decision said patch, nil only with both calls answered nil; after it said
    anything else, no patch call at all.
  - `installNode_patch_bracket`: every trace of `InstallNode` follows the protocol:
    at most one patch call, only on a bootstrap host outside single node, right after
    the checks for it passed; after a patch answered nil, the revert is the event
    right after the wait returns, made once, before `PatchEtcd`, `waitForBootkube`
    and `finalize`; no revert without a patch answered nil; and, for every config,
    `waitForMinMasterNodes` ends against its decision as `PatchDecision` says.
-/

namespace AssistedInstaller

/-! ## The decision -/

/-- `PatchControlPlaneReplicas` answering `r`. -/
abbrev patchCall (r : Except GoError Unit) : Event := .call .patchControlPlaneReplicas (.unit r)

/-- `UnPatchControlPlaneReplicas` answering `r`. -/
abbrev unpatchCall (r : Except GoError Unit) : Event := .call .unPatchControlPlaneReplicas (.unit r)

/-- The last calls before a patch: the poll that ended `waitForNetworkType`, `GetNetworkType`
answering `OVNKubernetes`, and `GetControlPlaneReplicas` answering 3. -/
def patchChecks (nt : String) : List Event :=
  [.call .getNetworkType (.text (.ok nt)), .call .getNetworkType (.text (.ok ovnKubernetes)),
    .call .getControlPlaneReplicas (.int (.ok numMasterNodes))]

/-- What `waitForMinMasterNodes` has checked when it patches: the version is below 4.7, and
the trace ends with `patchChecks`. -/
def PatchChecked (env : Env) (openshiftVersion : String) (t : List Event) : Prop :=
  isVersionLessThan47 env openshiftVersion = .ok true ∧ ∃ pre nt, t = pre ++ patchChecks nt

theorem waitForNetworkType_returns (fuel : Nat) :
    Prog.Returns (fun _ t => ∃ s nt, t = s ++ [.call .getNetworkType (.text (.ok nt))])
      (waitForNetworkType fuel) := by
  refine (waitForPredicate_sat _ (fun _ _ => True) _ (fun _ t₀ _ env h => ?_) fuel () [] trivial).mono
    fun t o hw a ho => by subst ho; simpa [WaitEnds] using hw
  simp only [K8sClient.getNetworkType, callText, Prog.attempt_query_bind_run, Prog.pure_run]
  cases env.text h .getNetworkType
  · trivial
  · exact ⟨t₀, _, rfl⟩

/-- `waitForNetworkType` polls only the network type. -/
theorem waitForNetworkType_no_replicas (fuel : Nat) :
    Prog.Emits (fun x => ¬x.Calls .getControlPlaneReplicas) (waitForNetworkType fuel) := by
  unfold waitForNetworkType K8sClient.getNetworkType callText
  exact waitForPredicate_emits _ (fun ⟨_, he⟩ => nomatch he) (fun _ =>
    (Prog.Emits.query fun _ => by rintro ⟨_, he⟩; cases he).attempt.bind fun _ => Prog.Emits.pure _) fuel ()

/-- The decision says patch exactly when its checks passed: `IsVersionLessThan47` answered
true, and its last calls found `OVNKubernetes` and 3 control plane replicas. -/
theorem shouldControlPlaneReplicasPatchApplied_iff (i : Config) (fuel : Nat) (env : Env) (h : List Event) :
    (shouldControlPlaneReplicasPatchApplied i fuel env h).1 = .ok true ↔
      PatchChecked env i.openshiftVersion (shouldControlPlaneReplicasPatchApplied i fuel env h).2 := by
  simp only [shouldControlPlaneReplicasPatchApplied, Prog.bind_run, Prog.compute_run]
  rcases hv : isVersionLessThan47 env i.openshiftVersion with e | _ | _ <;>
    simp only [hv, Out.ofExcept, Bool.not_false, Bool.not_true, Bool.false_eq_true, if_true, if_false,
      Prog.pure_run, reduceCtorEq, Out.ok.injEq, Except.ok.injEq, List.append_nil, false_iff, PatchChecked,
      false_and, not_false_eq_true, true_and]
  rw [Prog.bind_run]
  have hw := waitForNetworkType_returns fuel env h
  have hn := waitForNetworkType_no_replicas fuel env h
  rcases hr : waitForNetworkType fuel env h with ⟨_ | e | _, t⟩ <;> rw [hr] at hw hn <;>
    dsimp only [List.nil_append] at hw hn ⊢
  rotate_left
  iterate 2
    exact iff_of_false (by simp) fun ⟨pre, nt, he⟩ =>
      hn (.call .getControlPlaneReplicas (.int (.ok numMasterNodes))) (by rw [he]; simp [patchChecks]) ⟨_, rfl⟩
  obtain ⟨s, nt, rfl⟩ := hw () rfl
  simp only [K8sClient.getNetworkType, K8sClient.getControlPlaneReplicas, callText, callInt,
    Prog.query_bind_run]
  generalize env.text _ .getNetworkType = q
  rcases q with e | nt'
  · exact iff_of_false (by simp) fun ⟨pre, nt, he⟩ => by simpa [patchChecks] using congrArg List.getLast? he
  by_cases hn : nt' = ovnKubernetes
  · subst hn
    simp only [ne_eq, not_true_eq_false, if_false, Prog.query_bind_run]
    generalize env.int _ .getControlPlaneReplicas = q
    rcases q with e | r
    · exact iff_of_false (by simp) fun ⟨pre, nt, he⟩ => by simpa [patchChecks] using congrArg List.getLast? he
    by_cases hr : r = numMasterNodes
    · subst hr
      exact iff_of_true rfl ⟨s, nt, by simp [patchChecks]⟩
    · exact iff_of_false (by simp [hr]) fun ⟨pre, nt, he⟩ => by
        simpa [patchChecks, hr] using congrArg List.getLast? he
  · exact iff_of_false (by simp [hn]) fun ⟨pre, nt, he⟩ => by
      simpa [patchChecks, hn] using congrArg List.getLast? he

theorem shouldControlPlaneReplicasPatchApplied_true (i : Config) (fuel : Nat) (env : Env) (h : List Event)
    (ht : (shouldControlPlaneReplicasPatchApplied i fuel env h).1 = .ok true) :
    PatchChecked env i.openshiftVersion (shouldControlPlaneReplicasPatchApplied i fuel env h).2 :=
  (shouldControlPlaneReplicasPatchApplied_iff i fuel env h).mp ht

/-! ## The protocol -/

/-- What an event is to the patch. -/
inductive PatchEvent where
  | patch (ok : Bool)
  | unpatch (ok : Bool)
  /-- `waitForMasterNodes` returned, through its predicate or `ctx.Done()`. -/
  | exit
  /-- One of `afterMinMasterNodes`. -/
  | after
  | other
  deriving DecidableEq, Repr

/-- What comes after `waitForMinMasterNodes`: `PatchEtcd`, and the first reports of
`waitForBootkube` and of `finalize`. -/
def afterMinMasterNodes : List Kind := [.patchEtcd, .progress .waitingForBootkube, .progress .rebooting]

/-- The kinds of event that move the protocol: patch, revert, and the wait's two exits. -/
def bracketKinds : List Kind := [.patchReplicas, .unPatchReplicas, .mastersReady, .ctxDone]

def Event.patchEvent (x : Event) : PatchEvent :=
  match x.kind with
  | .patchReplicas => .patch (x = patchCall (.ok ()))
  | .unPatchReplicas => .unpatch (x = unpatchCall (.ok ()))
  | .mastersReady | .ctxDone => .exit
  | k => if k ∈ afterMinMasterNodes then .after else .other

/-- An event that does not move a settled protocol. -/
def Event.PatchFree (x : Event) : Prop := x.patchEvent = .after ∨ x.patchEvent = .other

inductive PatchState where
  | unpatched
  | failed
  | applied
  /-- The wait returned with the patch applied: only the revert may come. -/
  | due
  | reverted (ok : Bool)
  deriving DecidableEq, Repr

/-- One step of the protocol; `none`: the event breaks it. -/
def patchStep : PatchState → PatchEvent → Option PatchState
  | .unpatched, .patch ok => some (if ok then .applied else .failed)
  | .unpatched, .unpatch _ => none
  | .unpatched, _ => some .unpatched
  | .failed, .patch _ | .failed, .unpatch _ => none
  | .failed, _ => some .failed
  | .applied, .exit => some .due
  | .applied, .other => some .applied
  | .applied, _ => none
  | .due, .unpatch ok => some (.reverted ok)
  | .due, _ => none
  | .reverted ok, .other => some (.reverted ok)
  | .reverted true, .after => some (.reverted true)
  | .reverted _, _ => none

def patchRun : PatchState → List Event → Option PatchState
  | s, [] => some s
  | s, x :: t => (patchStep s x.patchEvent).bind fun s' => patchRun s' t

/-- Nothing patched, or the patch reverted with nil. -/
def PatchState.Settled (s : PatchState) : Prop := s = .unpatched ∨ s = .reverted true

/-- The patch answered nil at some point. -/
def PatchState.holds : PatchState → Bool
  | .applied | .due | .reverted _ => true
  | _ => false

def PatchState.patched : PatchState → Nat
  | .unpatched => 0
  | _ => 1

def PatchState.reverts : PatchState → Nat
  | .reverted _ => 1
  | _ => 0

def PatchEvent.isPatch : PatchEvent → Bool
  | .patch _ => true
  | _ => false

def PatchEvent.isUnpatch : PatchEvent → Bool
  | .unpatch _ => true
  | _ => false

/-- What the protocol says of a trace that follows it to a state other than `due`. -/
structure PatchBracket (t : List Event) : Prop where
  patchOnce : t.countP (fun x => x.kind = .patchReplicas) ≤ 1
  revertNext : ∀ pre x post, t = pre ++ x :: post → patchCall (.ok ()) ∈ pre →
    x.kind = .mastersReady ∨ x.kind = .ctxDone → ∃ y post', post = y :: post' ∧ y.kind = .unPatchReplicas
  unpatchOnce : t.countP (fun x => x.kind = .unPatchReplicas) ≤ 1
  revertedBefore : ∀ pre x post, t = pre ++ x :: post → patchCall (.ok ()) ∈ pre →
    x.kind ∈ afterMinMasterNodes → unpatchCall (.ok ()) ∈ pre
  unpatchAfterPatch : ∀ pre x post, t = pre ++ x :: post → x.kind = .unPatchReplicas →
    patchCall (.ok ()) ∈ pre

/-! ## What each step allows -/

section
variable {x : Event}

theorem patchEvent_of_patch (h : x.kind = .patchReplicas) :
    x.patchEvent = .patch (x = patchCall (.ok ())) := by
  simp only [Event.patchEvent, h]

theorem patchEvent_of_unpatch (h : x.kind = .unPatchReplicas) :
    x.patchEvent = .unpatch (x = unpatchCall (.ok ())) := by
  simp only [Event.patchEvent, h]

/-- The master wait's polls and the calls of no other class leave the protocol alone. -/
theorem patchEvent_of_poll (h : x.kind ∈ [.enabledHosts, .listMasterNodes, .other]) : x.patchEvent = .other := by
  simp only [List.mem_cons, List.mem_singleton, List.not_mem_nil, or_false] at h
  rcases h with h | h | h <;> simp [Event.patchEvent, h, afterMinMasterNodes]

theorem isPatch_patchEvent (x : Event) : x.patchEvent.isPatch = decide (x.kind = .patchReplicas) := by
  unfold Event.patchEvent
  split <;> (try split) <;> simp_all [PatchEvent.isPatch]

theorem isUnpatch_patchEvent (x : Event) : x.patchEvent.isUnpatch = decide (x.kind = .unPatchReplicas) := by
  unfold Event.patchEvent
  split <;> (try split) <;> simp_all [PatchEvent.isUnpatch]

theorem patchEvent_eq_patch_true (h : x.patchEvent = .patch true) : x = patchCall (.ok ()) := by
  have hk := isPatch_patchEvent x
  rw [h] at hk
  rw [patchEvent_of_patch (of_decide_eq_true hk.symm)] at h
  simpa using h

theorem patchEvent_eq_unpatch_true (h : x.patchEvent = .unpatch true) : x = unpatchCall (.ok ()) := by
  have hk := isUnpatch_patchEvent x
  rw [h] at hk
  rw [patchEvent_of_unpatch (of_decide_eq_true hk.symm)] at h
  simpa using h

theorem patchEvent_of_exit (h : x.kind = .mastersReady ∨ x.kind = .ctxDone) : x.patchEvent = .exit := by
  rcases h with h | h <;> simp only [Event.patchEvent, h]

theorem patchEvent_of_after (h : x.kind ∈ afterMinMasterNodes) : x.patchEvent = .after := by
  simp only [afterMinMasterNodes, List.mem_cons, List.mem_singleton, List.not_mem_nil, or_false] at h
  rcases h with h | h | h <;> simp [Event.patchEvent, h, afterMinMasterNodes]

theorem patchFree_of_kind (h : x.kind ∉ bracketKinds) : x.PatchFree := by
  unfold Event.PatchFree Event.patchEvent
  split <;> simp_all [bracketKinds]
  exact em _

theorem Event.PatchFree.kind_ne (hx : x.PatchFree) : x.kind ≠ .patchReplicas := fun h => by
  rcases hx with hx | hx <;> rw [patchEvent_of_patch h] at hx <;> cases hx

end

section
variable {s : PatchState} {e : PatchEvent}

theorem patchStep_settled (hs : s.Settled) (he : e = .after ∨ e = .other) : patchStep s e = some s := by
  rcases hs with rfl | rfl <;> rcases he with rfl | rfl <;> rfl

theorem PatchState.Settled.ne_due (hs : s.Settled) : s ≠ .due := by
  rcases hs with rfl | rfl <;> exact fun h => nomatch h

theorem patchStep_holds_keep : ∀ s e s', patchStep s e = some s' → s.holds → s'.holds := by
  intro s e
  rcases s with _ | _ | _ | _ | ⟨_ | _⟩ <;> rcases e with ⟨_ | _⟩ | ⟨_ | _⟩ | _ | _ | _ <;>
    rintro _ ⟨⟩ <;> decide

theorem patchStep_holds_reach : ∀ s e s', patchStep s e = some s' → s'.holds → s.holds ∨ e = .patch true := by
  intro s e
  rcases s with _ | _ | _ | _ | ⟨_ | _⟩ <;> rcases e with ⟨_ | _⟩ | ⟨_ | _⟩ | _ | _ | _ <;>
    rintro _ ⟨⟩ <;> decide

theorem patchStep_reverted_reach :
    ∀ s e s', patchStep s e = some s' → s' = .reverted true → s = .reverted true ∨ e = .unpatch true := by
  intro s e
  rcases s with _ | _ | _ | _ | ⟨_ | _⟩ <;> rcases e with ⟨_ | _⟩ | ⟨_ | _⟩ | _ | _ | _ <;>
    rintro _ ⟨⟩ <;> decide

theorem patchStep_patched : ∀ s e s', patchStep s e = some s' →
    s'.patched = s.patched + if e.isPatch then 1 else 0 := by
  intro s e
  rcases s with _ | _ | _ | _ | ⟨_ | _⟩ <;> rcases e with ⟨_ | _⟩ | ⟨_ | _⟩ | _ | _ | _ <;>
    rintro _ ⟨⟩ <;> decide

theorem patchStep_reverts : ∀ s e s', patchStep s e = some s' →
    s'.reverts = s.reverts + if e.isUnpatch then 1 else 0 := by
  intro s e
  rcases s with _ | _ | _ | _ | ⟨_ | _⟩ <;> rcases e with ⟨_ | _⟩ | ⟨_ | _⟩ | _ | _ | _ <;>
    rintro _ ⟨⟩ <;> decide

theorem patchStep_patch_true {s' : PatchState} (h : patchStep s (.patch true) = some s') : s'.holds := by
  rcases s with _ | _ | _ | _ | ⟨_ | _⟩ <;> cases h
  rfl

theorem patchStep_exit {s' : PatchState} (hs : s.holds) (h : patchStep s .exit = some s') : s' = .due := by
  rcases s with _ | _ | _ | _ | ⟨_ | _⟩ <;> cases h <;> first | rfl | cases hs

theorem patchStep_after {s' : PatchState} (hs : s.holds) (h : patchStep s .after = some s') :
    s = .reverted true := by
  rcases s with _ | _ | _ | _ | ⟨_ | _⟩ <;> cases h <;> first | rfl | cases hs

theorem patchStep_unpatch {b : Bool} {s' : PatchState} (h : patchStep s (.unpatch b) = some s') : s = .due := by
  rcases s with _ | _ | _ | _ | ⟨_ | _⟩ <;> cases h
  rfl

theorem patchStep_due {s' : PatchState} (h : patchStep .due e = some s') : e.isUnpatch := by
  rcases e with ⟨_ | _⟩ | ⟨_ | _⟩ | _ | _ | _ <;> cases h <;> rfl

end

/-! ## Following a trace -/

section
variable {s s' : PatchState} {t pre post : List Event} {x : Event}

theorem patchRun_append (s : PatchState) (t₁ t₂ : List Event) :
    patchRun s (t₁ ++ t₂) = (patchRun s t₁).bind fun s' => patchRun s' t₂ := by
  induction t₁ generalizing s with
  | nil => rfl
  | cons x t ih =>
    show (patchStep s x.patchEvent).bind (fun s' => patchRun s' (t ++ t₂)) =
      ((patchStep s x.patchEvent).bind fun s' => patchRun s' t).bind fun s' => patchRun s' t₂
    cases patchStep s x.patchEvent with
    | none => rfl
    | some s' => exact ih s'

theorem patchRun_snoc (s : PatchState) (t : List Event) (x : Event) :
    patchRun s (t ++ [x]) = (patchRun s t).bind fun s' => patchStep s' x.patchEvent := by
  rw [patchRun_append]
  cases patchRun s t <;> simp [patchRun]

theorem patchRun_split (h : patchRun s (pre ++ x :: post) = some s') :
    ∃ a b, patchRun s pre = some a ∧ patchStep a x.patchEvent = some b ∧ patchRun b post = some s' := by
  rw [patchRun_append] at h
  obtain ⟨a, ha, h⟩ := Option.bind_eq_some.mp h
  obtain ⟨b, hb, h⟩ := Option.bind_eq_some.mp h
  exact ⟨a, b, ha, hb, h⟩

/-- A property of states that every step keeps holds after every trace. -/
theorem patchRun_keep {H : PatchState → Prop} (hH : ∀ s e s', patchStep s e = some s' → H s → H s')
    (h : patchRun s t = some s') (hs : H s) : H s' := by
  induction t generalizing s with
  | nil => cases h; exact hs
  | cons x t ih =>
    obtain ⟨s₁, h₁, h₂⟩ := Option.bind_eq_some.mp h
    exact ih h₂ (hH _ _ _ h₁ hs)

/-- A state satisfying `H` is reached from one that does not only through an event `E` picks. -/
theorem patchRun_reach {H : PatchState → Prop} {E : PatchEvent → Prop}
    (hH : ∀ s e s', patchStep s e = some s' → H s' → H s ∨ E e) (h : patchRun s t = some s') (hs : H s') :
    H s ∨ ∃ x ∈ t, E x.patchEvent := by
  induction t generalizing s with
  | nil => cases h; exact .inl hs
  | cons x t ih =>
    obtain ⟨s₁, h₁, h₂⟩ := Option.bind_eq_some.mp h
    rcases ih h₂ with h₃ | ⟨y, hy, he⟩
    · exact (hH _ _ _ h₁ h₃).imp_right fun he => ⟨x, List.mem_cons_self _ _, he⟩
    · exact .inr ⟨y, List.mem_cons_of_mem _ hy, he⟩

/-- The events `p` picks, counted by a measure of the states that each of them raises by one. -/
theorem patchRun_count {f : PatchState → Nat} {p : PatchEvent → Bool}
    (hf : ∀ s e s', patchStep s e = some s' → f s' = f s + if p e then 1 else 0) (h : patchRun s t = some s') :
    f s' = f s + t.countP fun x => p x.patchEvent := by
  induction t generalizing s with
  | nil => cases h; rfl
  | cons x t ih =>
    obtain ⟨s₁, h₁, h₂⟩ := Option.bind_eq_some.mp h
    rw [ih h₂, hf _ _ _ h₁, List.countP_cons]
    omega

theorem patchRun_holds_of_mem (h : patchRun s t = some s') (hp : patchCall (.ok ()) ∈ t) : s'.holds := by
  obtain ⟨p₁, p₂, rfl⟩ := List.append_of_mem hp
  obtain ⟨a, b, -, hb, h₂⟩ := patchRun_split h
  exact patchRun_keep patchStep_holds_keep h₂ (patchStep_patch_true hb)

/-- A trace that follows the protocol to anything but `due` keeps the bracket. -/
theorem PatchBracket.of_patchRun (h : patchRun .unpatched t = some s) (hs : s ≠ .due) : PatchBracket t where
  patchOnce := by
    have hc := patchRun_count patchStep_patched h
    simp only [isPatch_patchEvent] at hc
    rcases s with _ | _ | _ | _ | _ <;> simp only [PatchState.patched] at hc <;> omega
  revertNext := by
    rintro pre x post rfl hp hx
    obtain ⟨a, b, ha, hb, hpost⟩ := patchRun_split h
    rw [patchEvent_of_exit hx] at hb
    obtain rfl := patchStep_exit (patchRun_holds_of_mem ha hp) hb
    rcases post with _ | ⟨y, post'⟩
    · cases hpost
      exact absurd rfl hs
    · obtain ⟨c, hc, -⟩ := Option.bind_eq_some.mp hpost
      have hu := patchStep_due hc
      rw [isUnpatch_patchEvent] at hu
      exact ⟨y, post', rfl, of_decide_eq_true hu⟩
  unpatchOnce := by
    have hc := patchRun_count patchStep_reverts h
    simp only [isUnpatch_patchEvent] at hc
    rcases s with _ | _ | _ | _ | _ <;> simp only [PatchState.reverts] at hc <;> omega
  revertedBefore := by
    rintro pre x post rfl hp hx
    obtain ⟨a, b, ha, hb, -⟩ := patchRun_split h
    rw [patchEvent_of_after hx] at hb
    have hr := patchStep_after (patchRun_holds_of_mem ha hp) hb
    rcases patchRun_reach patchStep_reverted_reach ha hr with h₀ | ⟨y, hy, he⟩
    · cases h₀
    · exact patchEvent_eq_unpatch_true he ▸ hy
  unpatchAfterPatch := by
    rintro pre x post rfl hx
    obtain ⟨a, b, ha, hb, -⟩ := patchRun_split h
    rw [patchEvent_of_unpatch hx] at hb
    have hd : a.holds := by rw [patchStep_unpatch hb]; rfl
    rcases patchRun_reach patchStep_holds_reach ha hd with h₀ | ⟨y, hy, he⟩
    · cases h₀
    · exact patchEvent_eq_patch_true he ▸ hy

/-- Settled after a trace from nothing patched: the trace has no patch call, or both calls
answered nil. -/
theorem patchRun_settled (h : patchRun .unpatched t = some s) (hs : s.Settled) :
    (∀ x ∈ t, x.kind ≠ .patchReplicas) ∨ patchCall (.ok ()) ∈ t ∧ unpatchCall (.ok ()) ∈ t := by
  rcases hs with rfl | rfl
  · have hc := patchRun_count patchStep_patched h
    simp only [isPatch_patchEvent, PatchState.patched, Nat.zero_add] at hc
    have h₀ := List.countP_eq_zero.mp (by omega : t.countP (fun x => decide (x.kind = .patchReplicas)) = 0)
    exact .inl fun x hx hk => h₀ x hx (decide_eq_true hk)
  · refine .inr ⟨?_, ?_⟩
    · rcases patchRun_reach patchStep_holds_reach h rfl with h₀ | ⟨y, hy, he⟩
      · cases h₀
      · exact patchEvent_eq_patch_true he ▸ hy
    · rcases patchRun_reach patchStep_reverted_reach h rfl with h₀ | ⟨y, hy, he⟩
      · cases h₀
      · exact patchEvent_eq_unpatch_true he ▸ hy

end

/-! ## Following a run -/

/-- Every patch call of `t` comes after a prefix satisfying `B`. -/
def PatchGuarded (B : List Event → Prop) (t : List Event) : Prop :=
  ∀ pre x post, t = pre ++ x :: post → x.kind = .patchReplicas → B pre

/-- `t` follows the protocol to a state satisfying `S`, and its patch calls are guarded by
`B`. -/
def PatchTrace (B : List Event → Prop) (S : PatchState → Prop) (t : List Event) : Prop :=
  (∃ s, patchRun .unpatched t = some s ∧ S s) ∧ PatchGuarded B t

section
variable {B : List Event → Prop} {S S' : PatchState → Prop} {t : List Event} {x : Event}

theorem PatchGuarded.snoc (h : PatchGuarded B t) (hx : x.kind = .patchReplicas → B t) :
    PatchGuarded B (t ++ [x]) := by
  intro pre y post ht hy
  rcases List.eq_nil_or_concat post with rfl | ⟨post', z, rfl⟩
  · obtain ⟨rfl, hyx⟩ := List.append_inj' ht rfl
    obtain rfl : x = y := List.singleton_inj.mp hyx
    exact hx hy
  · rw [List.concat_eq_append, ← List.cons_append, ← List.append_assoc] at ht
    exact h pre y post' (List.append_inj' ht rfl).1 hy

theorem PatchTrace.snoc (ht : PatchTrace B S t)
    (hx : ∀ s, S s → ∃ s', patchStep s x.patchEvent = some s' ∧ S' s') (hg : x.kind = .patchReplicas → B t) :
    PatchTrace B S' (t ++ [x]) := by
  obtain ⟨⟨s, hs, hS⟩, hgt⟩ := ht
  obtain ⟨s', hs', hS'⟩ := hx s hS
  exact ⟨⟨s', by rw [patchRun_snoc, hs]; exact hs', hS'⟩, hgt.snoc hg⟩

theorem PatchTrace.mono (ht : PatchTrace B S t) (hS : ∀ s, S s → S' s) : PatchTrace B S' t :=
  ⟨let ⟨s, hs, h⟩ := ht.1; ⟨s, hs, hS s h⟩, ht.2⟩

theorem PatchTrace.nil : PatchTrace B (· = .unpatched) [] :=
  ⟨⟨_, rfl, rfl⟩, fun pre x post h _ => by simp at h⟩

theorem Kinds.patchFree {α : Type} {ks : List Kind} {m : Go α} (hm : Kinds ks m)
    (hks : ∀ k ∈ ks, k ∉ bracketKinds) : Prog.Emits Event.PatchFree m :=
  Prog.Emits.mono hm fun _ hx => patchFree_of_kind (hks _ hx)

variable {env : Env}

/-- Patch-free events keep a settled protocol where it is. -/
theorem patchTrace_triple {α : Type} (hS : ∀ s, S s → s.Settled) {m : Go α} (hm : Prog.Emits Event.PatchFree m) :
    Prog.Triple env (PatchTrace B S) m (fun _ => PatchTrace B S) fun t _ => PatchTrace B (· ≠ .due) t :=
  (Prog.Triple.of_emits hm fun _ _ ht hx =>
    ht.snoc (fun s hs => ⟨s, patchStep_settled (hS s hs) hx, hs⟩) fun hk => absurd hk hx.kind_ne).conseq
    (fun _ h => h) (fun _ _ h => h) fun _ _ h => h.mono fun s hs => (hS s hs).ne_due

theorem patchTrace_kinds {α : Type} {ks : List Kind} (hks : ∀ k ∈ ks, k ∉ bracketKinds)
    (hS : ∀ s, S s → s.Settled) {m : Go α} (hm : Kinds ks m) :
    Prog.Triple env (PatchTrace B S) m (fun _ => PatchTrace B S) fun t _ => PatchTrace B (· ≠ .due) t :=
  patchTrace_triple hS (hm.patchFree hks)

end

/-! ## The wait and the bracket -/

section
variable (i : Config) (ctx : Context) (fuel : Nat) (env : Env)

/-- `waitForMasterNodes` returns exactly at its exit event: for an invariant of the trace so far
that its other events keep, it returns with a trace that kept it followed by the exit. -/
theorem waitForMasterNodes_exit {I : List Event → Prop} (minMasterNodes : Nat)
    (hI : ∀ t x, I t → x.patchEvent = .other → I (t ++ [x])) :
    Prog.Triple env I (waitForMasterNodes i ctx minMasterNodes fuel)
      (fun _ t => ∃ t' x, t = t' ++ [x] ∧ I t' ∧ x.patchEvent = .exit) fun t _ => I t := by
  refine Prog.Triple.loop (fun _ => I) (fun s => ?_) (fun _ _ h => h) fuel _
  unfold waitForMasterNodes.tick
  refine Prog.Triple.ite (fun _ => fun t₀ hI' h => ?_) fun _ => ?_
  · exact ⟨t₀, .ctxDone, rfl, hI', rfl⟩
  refine (Prog.Triple.of_emits (Prog.Emits.mono (sufficientMasterNodes_kinds i minMasterNodes s.1 s.2)
    fun _ hx => patchEvent_of_poll hx) hI).bind fun r => ?_
  rcases r with ⟨ok, rm, hm⟩
  refine Prog.Triple.ite (fun _ => fun t₀ hI' h => ?_) fun _ =>
    (Prog.Triple.pure _).conseq (fun _ h => h) (fun _ _ h => h) fun _ _ h => h
  exact ⟨t₀, .mastersReady rm, rfl, hI', rfl⟩

variable {B : List Event → Prop}

/-- `waitForMasterNodes` moves the protocol once, at its exit: from a state `s₀` its other events
keep, to `s₁`. -/
theorem waitForMasterNodes_patch (minMasterNodes : Nat) (s₀ s₁ : PatchState)
    (ho : patchStep s₀ .other = some s₀) (he : patchStep s₀ .exit = some s₁) :
    Prog.Triple env (PatchTrace B (· = s₀)) (waitForMasterNodes i ctx minMasterNodes fuel)
      (fun _ => PatchTrace B (· = s₁)) fun t _ => PatchTrace B (· = s₀) t :=
  (waitForMasterNodes_exit i ctx fuel env minMasterNodes fun _ x ht hx =>
    ht.snoc (fun _ h => ⟨s₀, by rw [h, hx]; exact ho, rfl⟩)
      fun hk => by rw [patchEvent_of_patch hk] at hx; cases hx).conseq
    (fun _ h => h) (fun _ _ ⟨t', x, ht, hI, hx⟩ => ht ▸ hI.snoc (fun _ h => ⟨s₁, by rw [h, hx]; exact he, rfl⟩)
      fun hk => by rw [patchEvent_of_patch hk] at hx; cases hx) fun _ _ h => h

omit ctx fuel in
theorem patchControlPlaneReplicas_patch :
    Prog.Triple env (fun t => PatchTrace B (· = .unpatched) t ∧ B t) K8sClient.patchControlPlaneReplicas
      (fun _ => PatchTrace B (· = .applied)) fun t _ => PatchTrace B (· ≠ .due) t := by
  unfold K8sClient.patchControlPlaneReplicas callUnit
  exact Prog.Triple.query (fun _ _ ⟨ht, hb⟩ => ht.snoc (fun _ hs => ⟨.applied, by rw [hs]; rfl, rfl⟩) fun _ => hb)
    fun _ _ ⟨ht, hb⟩ => ht.snoc (fun _ hs => ⟨.failed, by rw [hs]; rfl, fun h => nomatch h⟩) fun _ => hb

omit ctx fuel in
theorem unPatchControlPlaneReplicas_patch :
    Prog.Triple env (PatchTrace B (· = .due)) K8sClient.unPatchControlPlaneReplicas
      (fun _ => PatchTrace B PatchState.Settled) fun t _ => PatchTrace B (· ≠ .due) t := by
  unfold K8sClient.unPatchControlPlaneReplicas callUnit
  exact Prog.Triple.query
    (fun _ _ ht => ht.snoc (fun _ hs => ⟨.reverted true, by rw [hs]; rfl, .inr rfl⟩) fun h => nomatch h)
    fun _ _ ht => ht.snoc (fun _ hs => ⟨.reverted false, by rw [hs]; rfl, fun h => nomatch h⟩) fun h => nomatch h

variable (hB : ∀ t, PatchChecked env i.openshiftVersion t → B t)
include hB

omit ctx in
/-- The decision records only patch-free events, and when it says patch, the trace so far passed
the checks. -/
theorem shouldControlPlaneReplicasPatchApplied_patch :
    Prog.Triple env (PatchTrace B (· = .unpatched)) (shouldControlPlaneReplicasPatchApplied i fuel)
      (fun b t => PatchTrace B (· = .unpatched) t ∧ (b = true → B t)) fun t _ => PatchTrace B (· ≠ .due) t :=
  (patchTrace_triple (fun _ hs => .inl hs)
    ((shouldControlPlaneReplicasPatchApplied_kinds i fuel).patchFree (by decide))).add fun t₀ h b _ hr hb => by
    subst hb
    obtain ⟨hv, pre, nt, ht⟩ := shouldControlPlaneReplicasPatchApplied_true i fuel env h hr
    exact hB _ ⟨hv, t₀ ++ pre, nt, by rw [ht, List.append_assoc]⟩

theorem waitForMinMasterNodes_patch :
    Prog.Triple env (PatchTrace B (· = .unpatched)) (waitForMinMasterNodes i ctx fuel)
      (fun _ => PatchTrace B PatchState.Settled) fun t _ => PatchTrace B (· ≠ .due) t := by
  refine (shouldControlPlaneReplicasPatchApplied_patch i fuel env hB).bind fun b => ?_
  cases b
  · exact (Prog.Triple.pure ()).conseq (fun _ h => h.1) (fun _ _ h => h) (fun _ _ h => h) |>.bind fun _ =>
      (waitForMasterNodes_patch i ctx fuel env minMasterNodes .unpatched .unpatched rfl rfl).conseq (fun _ h => h) (fun _ _ h => h)
        (fun _ _ h => h.mono fun _ hs => hs ▸ fun h => nomatch h) |>.bind fun _ =>
      (Prog.Triple.pure ()).conseq (fun _ h => h.mono fun _ hs => .inl hs) (fun _ _ h => h) fun _ _ h => h
  · exact (Prog.Triple.ite (fun _ => (patchControlPlaneReplicas_patch env).conseq (fun _ ⟨h, hb⟩ => ⟨h, hb rfl⟩)
      (fun _ _ h => h) fun _ _ h => h) fun h => absurd rfl h).bind fun _ =>
      (waitForMasterNodes_patch i ctx fuel env minMasterNodes .applied .due rfl rfl).conseq (fun _ h => h) (fun _ _ h => h)
        (fun _ _ h => h.mono fun _ hs => hs ▸ fun h => nomatch h) |>.bind fun _ =>
      Prog.Triple.ite (fun _ => unPatchControlPlaneReplicas_patch env) fun h => absurd rfl h

theorem waitForControlPlane_patch (hctx : ctx.done = false) :
    Prog.Triple env (PatchTrace B (· = .unpatched)) (waitForControlPlane i ctx fuel)
      (fun _ => PatchTrace B PatchState.Settled) fun t _ => PatchTrace B (· ≠ .due) t := by
  have hu : ∀ s, s = PatchState.unpatched → s.Settled := fun _ hs => .inl hs
  have hs : ∀ s : PatchState, s.Settled → s.Settled := fun _ hs => hs
  exact (patchTrace_kinds (by decide) hu (kinds_callUnit (kind_mem_other (by rfl)))).bind fun _ =>
    (patchTrace_kinds (by decide) hu (kinds_callUnit (kind_mem_other (by rfl)))).bind fun _ =>
    (patchTrace_kinds (by decide) hu (updateHostInstallProgress_kinds i _ _)).bind fun _ =>
    (waitForMinMasterNodes_patch i ctx fuel env hB).bind fun _ =>
    (patchTrace_kinds (by decide) hs (Prog.Emits.compute _ : Kinds [] _)).bind fun _ =>
    (patchTrace_kinds (by decide) hs (Prog.Emits.ite
      (kinds_callUnit (by decide : Call.patchEtcd.kind ∈ [Kind.patchEtcd])) (Prog.Emits.pure _))).bind fun _ =>
    (patchTrace_kinds (by decide) hs (waitForBootkube_kinds i hctx fuel)).bind fun _ =>
    patchTrace_kinds (by decide) hs (waitForController_kinds i fuel)

end

theorem waitForMinMasterNodes_returns (i : Config) (ctx : Context) (fuel : Nat) :
    Prog.Returns (fun _ t => (∀ x ∈ t, x.kind ≠ .patchReplicas) ∨
      patchCall (.ok ()) ∈ t ∧ unpatchCall (.ok ()) ∈ t) (waitForMinMasterNodes i ctx fuel) := fun env h a ha => by
  have hm := ((waitForMinMasterNodes_patch i ctx fuel env fun _ _ => trivial).conseq
    (fun t (ht : t = []) => ht ▸ PatchTrace.nil) (fun _ _ h => h) fun _ _ h => h).run h
  rw [ha] at hm
  obtain ⟨⟨s, hs, hS⟩, -⟩ := hm
  exact patchRun_settled hs hS

/-- How `waitForMinMasterNodes` ends (`r`) against its decision `d`, the run of
`shouldControlPlaneReplicasPatchApplied` from the same history: the decision says patch exactly
when its checks passed; a nil return after it said patch comes with the patch and the revert both
answered nil, and after it said anything else the run makes no patch call. -/
structure PatchDecision (env : Env) (openshiftVersion : String) (d : Out Bool × List Event)
    (r : Out Unit × List Event) : Prop where
  decided_iff : d.1 = .ok true ↔ PatchChecked env openshiftVersion d.2
  patched : r.1 = .ok () → d.1 = .ok true → patchCall (.ok ()) ∈ r.2 ∧ unpatchCall (.ok ()) ∈ r.2
  not_patched : d.1 ≠ .ok true → ∀ x ∈ r.2, x.kind ≠ .patchReplicas

/-- The master wait makes no patch call, whatever its context. -/
theorem waitForMasterNodes_no_patch (i : Config) (ctx : Context) (minMasterNodes fuel : Nat) :
    Prog.Emits (fun x => x.kind ≠ .patchReplicas) (waitForMasterNodes i ctx minMasterNodes fuel) := by
  refine Prog.Emits.loop (fun s => ?_) fuel _
  unfold waitForMasterNodes.tick
  split
  · exact (Prog.Emits.emit (by decide)).bind fun _ => Prog.Emits.pure _
  refine (Prog.Emits.mono (sufficientMasterNodes_kinds i minMasterNodes s.1 s.2) fun x hx hp => ?_).bind fun r => ?_
  · rw [hp] at hx
    exact absurd hx (by decide)
  rcases r with ⟨ok, rm, hm⟩
  dsimp only
  split
  · exact (Prog.Emits.emit (by simp [Event.kind])).bind fun _ => Prog.Emits.pure _
  · exact Prog.Emits.pure _

theorem waitForMinMasterNodes_decision (i : Config) (ctx : Context) (fuel : Nat) (env : Env) (h : List Event) :
    PatchDecision env i.openshiftVersion (shouldControlPlaneReplicasPatchApplied i fuel env h)
      (waitForMinMasterNodes i ctx fuel env h) where
  decided_iff := shouldControlPlaneReplicasPatchApplied_iff i fuel env h
  patched hr hd := by
    refine (waitForMinMasterNodes_returns i ctx fuel env h () hr).resolve_left fun hn => ?_
    rw [waitForMinMasterNodes, Prog.bind_run] at hn
    rcases hdr : shouldControlPlaneReplicasPatchApplied i fuel env h with ⟨(_ | _) | _ | _, t⟩ <;>
      rw [hdr] at hd hn <;> cases hd
    simp only [if_true, K8sClient.patchControlPlaneReplicas, callUnit, Prog.query_bind_run] at hn
    split at hn <;> exact hn _ (List.mem_append_right _ (List.mem_cons_self _ _)) (by rfl)
  not_patched hd x hx := by
    have hk := shouldControlPlaneReplicasPatchApplied_kinds i fuel env h
    rw [waitForMinMasterNodes, Prog.bind_run] at hx
    rcases hr : shouldControlPlaneReplicasPatchApplied i fuel env h with ⟨(_ | _) | _ | _, t⟩ <;>
      rw [hr] at hx hd hk <;> dsimp only at hx hk
    · simp only [Bool.false_eq_true, if_false, Prog.bind_run, Prog.pure_run, List.append_nil,
        List.nil_append] at hx
      rcases List.mem_append.mp hx with hx | hx
      · exact fun hp => by simpa [hp] using hk x hx
      have hw := waitForMasterNodes_no_patch i ctx minMasterNodes fuel env (h ++ t)
      revert hx
      generalize waitForMasterNodes i ctx minMasterNodes fuel env (h ++ t) = w at hw
      rcases w with ⟨_ | _ | _, t'⟩ <;> exact hw x
    · exact absurd rfl hd
    all_goals exact fun hp => by simpa [hp] using hk x hx

/-! ## `InstallNode` -/

/-- What a patch call of `InstallNode` on config `i` needs before it: a bootstrap host outside
single node, and the checks of `waitForMinMasterNodes` passed. -/
def PatchAllowed (env : Env) (i : Config) (pre : List Event) : Prop :=
  i.role = hostRoleBootstrap ∧ i.highAvailabilityMode ≠ clusterHighAvailabilityModeNone ∧
    PatchChecked env i.openshiftVersion pre

theorem ignitionPath_openshiftVersion (i : Config) (fuel : Nat) :
    Prog.Returns (fun (a : Config × String) _ => a.1.openshiftVersion = i.openshiftVersion)
      (if i.highAvailabilityMode = clusterHighAvailabilityModeNone then createSingleNodeMasterIgnition i fuel
        else do
          let ignitionPath ← downloadHostIgnition i
          pure (i, ignitionPath)) :=
  Prog.Returns.ite (fun _ => (createSingleNodeMasterIgnition_returns i fuel).mono fun _ _ ⟨ha, _⟩ => ha ▸ rfl)
    fun _ => (Prog.Returns.any.bind fun _ => Prog.Returns.pure _).mono fun _ _ ⟨_, _, _, _, _, ha, _⟩ => ha ▸ rfl

theorem installNodeSteps_patch (i : Config) (fuel : Nat) (env : Env) :
    Prog.Triple env (PatchTrace (PatchAllowed env i) (· = .unpatched)) (installNodeSteps i fuel)
      (fun _ => PatchTrace (PatchAllowed env i) PatchState.Settled)
      fun t _ => PatchTrace (PatchAllowed env i) (· ≠ .due) t := by
  have hu : ∀ s, s = PatchState.unpatched → s.Settled := fun _ hs => .inl hs
  have hs : ∀ s : PatchState, s.Settled → s.Settled := fun _ hs => hs
  refine (patchTrace_kinds (by decide) hu (updateHostInstallProgress_kinds _ _ _)).bind fun _ =>
    (patchTrace_kinds (by decide) hu (kinds_callValue (kind_mem_other (by rfl)))).bind fun dev =>
    (patchTrace_kinds (by decide) hu (cleanupInstallDevice_kinds _)).bind fun _ =>
    (patchTrace_kinds (by decide) hu (kinds_callUnit (kind_mem_other (by rfl)))).bind fun _ =>
    (patchTrace_kinds (by decide) hu (Prog.Emits.ite (startBootstrapGoroutines_emits _ _ _) (Prog.Emits.pure _) : Kinds [] _)).bind
      fun g => (patchTrace_kinds (by decide) hu (updateHostInstallProgress_kinds _ _ _)).bind fun _ =>
    ((patchTrace_kinds (by decide) hu (Prog.Emits.ite (createSingleNodeMasterIgnition_kinds _ fuel)
      (((downloadHostIgnition_kinds _).mono (by decide : [Kind.other] ⊆ [.progress .waitingForBootkube, .other])).bind
        fun _ => Prog.Emits.pure _))).add_returns (ignitionPath_openshiftVersion _ fuel)).bind fun x => ?_
  rcases x with ⟨i', path⟩
  refine Prog.Triple.pull fun hv => ?_
  have hv : i'.openshiftVersion = i.openshiftVersion := hv
  refine (patchTrace_kinds (by decide) hu (writeImageToDisk_kinds i' path)).bind fun _ =>
    (patchTrace_kinds (by decide) hu (kinds_callUnit (kind_mem .setBootOrder (by rfl)
      (List.mem_singleton_self _))).discard).bind fun _ =>
    (Prog.Triple.ite (fun hb => ?_) fun _ => Prog.Triple.ite (fun _ =>
      (patchTrace_kinds (by decide) hu (workerWaitFor2ReadyMasters_kinds i' fuel)).conseq (fun _ h => h)
        (fun _ _ h => h.mono hu) fun _ _ h => h) fun _ =>
      (patchTrace_kinds (by decide) hu (Prog.Emits.pure _ : Kinds [] _)).conseq (fun _ h => h)
        (fun _ _ h => h.mono hu) fun _ _ h => h).bind fun _ =>
    (patchTrace_kinds (by decide) hs (kinds_notify (kind_mem_other (by rfl)))).bind fun _ =>
    (patchTrace_kinds (by decide) hs (kinds_callText (kind_mem .uploadLogs (by rfl)
      (List.mem_singleton_self _))).discard).bind fun _ =>
    patchTrace_kinds (by decide) hs (Prog.Emits.pure _ : Kinds [] _)
  exact (patchTrace_kinds (by decide) hu (updateHostInstallProgress_kinds _ _ _)).bind fun _ =>
    (patchTrace_kinds (by decide) hu (errGroupWait_kinds _)).bind fun _ =>
    waitForControlPlane_patch i' ⟨false⟩ fuel env (fun t hc => ⟨hb.1, hb.2, hv ▸ hc⟩) rfl

theorem installNode_patch (i : Config) (fuel : Nat) (env : Env) :
    Prog.Triple env (PatchTrace (PatchAllowed env i) (· = .unpatched)) (installNode i fuel)
      (fun _ => PatchTrace (PatchAllowed env i) (· ≠ .due)) fun t _ => PatchTrace (PatchAllowed env i) (· ≠ .due) t :=
  (installNodeSteps_patch i fuel env).bind fun c =>
    (patchTrace_kinds (by decide) (fun _ hs => hs) (finalize_kinds c)).conseq (fun _ h => h)
      (fun _ _ h => h.mono fun _ hs => hs.ne_due) fun _ _ h => h

end AssistedInstaller
