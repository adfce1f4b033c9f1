import AssistedInstaller.Go.Prog
import Mathlib.Data.Nat.Defs
import Mathlib.Algebra.Group.Nat.Basic

/-
  AssistedInstaller.Utils.Retry — `utils.Retry(attempts, sleep, log, f)`.

  `Retry` calls `f` in a `for i := 0; i < attempts-1; i++` loop that returns on the
  first nil, then once more after the loop. `attempts` is a Go `int` (64 bits on the
  installer's targets), so `attempts-1` wraps: `retryLoops` is how often the loop
  body runs (`retryLoops_guard` checks it against the loop's own guard).

  `retry` is generic in the monad `f` runs in; `countedCall rs` is an `f` whose
  `k`-th call (from 0) answers `rs k`, in a monad counting the calls.
  - `retry_counted`: `f` is called until its first nil or until `retryLoops + 1`
    calls, whichever comes first; the result is nil iff a call answered nil, and
    otherwise the error built from the last call's error.
  - `retryLoops_add_one`: for every `attempts` but the least `int`, that bound is
    `max(attempts, 1)`.
  - `retry_min_int_calls_twice`: at `attempts = math.MinInt64`, `attempts-1` wraps to
    `math.MaxInt64`; an `f` failing once then succeeding is called twice and
    `Retry` returns nil, where `max(attempts, 1) = 1` call was due.
  - `retry_calls`: for every other `attempts` the calls and the result are the ones
    `max(attempts, 1)` attempts give.
-/

namespace AssistedInstaller

/-- Go's `int` on the 64-bit targets the installer runs on. -/
abbrev GoInt := BitVec 64

/-- How many times the body of `for i := 0; i < attempts-1; i++` runs. -/
def retryLoops (attempts : GoInt) : Nat := (attempts - 1).toInt.toNat

/-- `utils.Retry`; `sleep` is `time.Sleep(sleep)`. -/
def retry {m : Type → Type} [Monad m] (attempts : GoInt) (sleep : m Unit) (f : m (Option GoError)) :
    m (Option GoError) :=
  loop (retryLoops attempts)
where
  loop : Nat → m (Option GoError)
    | 0 => do
      match ← f with
      | none => pure none
      | some err =>
        pure (some ⟨"failed after " ++ toString attempts.toInt ++ " attempts, last error: " ++ err.msg⟩)
    | n + 1 => do
      match ← f with
      | none => pure none
      | some _ => do sleep; loop n

/-- The error `Retry` returns after its last failed call. -/
def retryError (attempts : GoInt) (err : GoError) : GoError :=
  ⟨"failed after " ++ toString attempts.toInt ++ " attempts, last error: " ++ err.msg⟩

theorem retryLoops_guard (attempts : GoInt) (i : Nat) (hi : i < 2 ^ 63) :
    i < retryLoops attempts ↔ (BitVec.ofNat 64 i).slt (attempts - 1) = true := by
  have hlt := attempts.isLt
  have h1 : (1 : BitVec 64).toNat = 1 := rfl
  simp only [retryLoops, BitVec.slt, decide_eq_true_eq, BitVec.toInt_eq_toNat_cond, BitVec.toNat_sub,
    h1, BitVec.toNat_ofNat]
  split <;> split <;> omega

theorem retryLoops_add_one (attempts : GoInt) (h : attempts ≠ BitVec.intMin 64) :
    retryLoops attempts + 1 = (max attempts.toInt 1).toNat := by
  have hne : attempts.toNat ≠ 2 ^ 63 := fun e => h (BitVec.eq_of_toNat_eq (by simpa using e))
  have hlt := attempts.isLt
  have h1 : (1 : BitVec 64).toNat = 1 := rfl
  simp only [retryLoops, BitVec.toInt_eq_toNat_cond, BitVec.toNat_sub, h1]
  split <;> split <;> omega

/-! ## In a program of the installer -/

section
variable {E ε : Type} (attempts : GoInt) {f : Prog E ε (Option GoError)}

theorem retry_emits {R : ε → Prop} (hf : Prog.Emits R f) : Prog.Emits R (retry attempts (pure ()) f) := by
  suffices ∀ n, Prog.Emits R (retry.loop attempts (pure ()) f n) from this _
  intro n
  induction n with
  | zero => exact hf.bind fun r => by cases r <;> exact Prog.Emits.pure _
  | succ n ih =>
    refine hf.bind fun r => ?_
    cases r
    exacts [Prog.Emits.pure _, (Prog.Emits.pure _).bind fun _ => ih]

theorem retry_atMost {A : ε → Bool} (hf : Prog.AtMost A 1 f) :
    Prog.AtMost A (retryLoops attempts + 1) (retry attempts (pure ()) f) := by
  suffices ∀ n, Prog.AtMost A (n + 1) (retry.loop attempts (pure ()) f n) from this _
  intro n
  induction n with
  | zero => exact (hf.bind fun r => by cases r <;> exact Prog.AtMost.of_emits (Prog.Emits.pure _)).mono le_rfl
  | succ n ih =>
    refine (hf.bind fun r => (?_ : Prog.AtMost A (n + 1) _)).mono (by omega)
    cases r
    · exact (Prog.AtMost.of_emits (Prog.Emits.pure _)).mono (Nat.zero_le _)
    · exact ((Prog.AtMost.of_emits (Prog.Emits.pure _)).bind fun _ => ih).mono (by omega)

/-- `Retry` returns nil only after a call of `f` that returned nil, and what that call showed
(`Q`) is in the trace. -/
theorem retry_returns {Q : ε → Prop} (hf : Prog.Returns (fun r t => r = none → ∃ x ∈ t, Q x) f) :
    Prog.Returns (fun r t => r = none → ∃ x ∈ t, Q x) (retry attempts (pure ()) f) := by
  suffices ∀ n, Prog.Returns (fun r t => r = none → ∃ x ∈ t, Q x) (retry.loop attempts (pure ()) f n)
    from this _
  intro n
  induction n with
  | zero =>
    refine (hf.bind fun r => (?_ : Prog.Returns (fun b _ => b = none → r = none) _)).mono ?_
    · cases r
      exacts [(Prog.Returns.pure _).mono fun _ _ _ _ => rfl, (Prog.Returns.pure _).mono fun _ _ h hb => by
        simp [h.1] at hb]
    · rintro b _ ⟨a, t₁, t₂, rfl, h₁, h₂⟩ hb
      obtain ⟨x, hx, hq⟩ := h₁ (h₂ hb)
      exact ⟨x, List.mem_append_left _ hx, hq⟩
  | succ n ih =>
    refine (hf.bind fun r => (?_ : Prog.Returns (fun b t => b = none → r = none ∨ ∃ x ∈ t, Q x) _)).mono ?_
    · cases r
      · exact (Prog.Returns.pure _).mono fun _ _ _ _ => .inl rfl
      · exact ((Prog.Returns.pure ()).bind fun _ => ih).mono fun _ _ ⟨_, _, t₂, ht, ⟨_, ht₁⟩, h⟩ hb => by
          subst ht₁; subst ht; exact .inr (h hb)
    · rintro b _ ⟨a, t₁, t₂, rfl, h₁, h₂⟩ hb
      rcases h₂ hb with ha | ⟨x, hx, hq⟩
      · obtain ⟨x, hx, hq⟩ := h₁ ha
        exact ⟨x, List.mem_append_left _ hx, hq⟩
      · exact ⟨x, List.mem_append_right _ hx, hq⟩

end

/-! ## Counting the calls -/

/-- An `f` whose `k`-th call answers `rs k`; the state counts the calls made. -/
def countedCall (rs : Nat → Option GoError) : StateM Nat (Option GoError) := fun k => (rs k, k + 1)

theorem countedCall_bind {β : Type} (rs : Nat → Option GoError) (g : Option GoError → StateM Nat β)
    (s : Nat) : (countedCall rs >>= g) s = g (rs s) (s + 1) := rfl

section
variable (attempts : GoInt) (rs : Nat → Option GoError)

theorem retry_loop_counted (n s : Nat) :
    (∃ j ≤ n, rs (s + j) = none ∧ (∀ i < j, rs (s + i) ≠ none) ∧
      retry.loop attempts (pure ()) (countedCall rs) n s = (none, s + j + 1)) ∨
    ((∀ i ≤ n, rs (s + i) ≠ none) ∧ ∃ err, rs (s + n) = some err ∧
      retry.loop attempts (pure ()) (countedCall rs) n s = (some (retryError attempts err), s + n + 1)) := by
  induction n generalizing s with
  | zero =>
    cases hs : rs s with
    | none => exact .inl ⟨0, le_rfl, by simpa using hs, by simp, by simp only [retry.loop, countedCall_bind, hs]; rfl⟩
    | some err =>
      refine .inr ⟨fun i hi => ?_, err, by simpa using hs, by simp only [retry.loop, countedCall_bind, hs]; rfl⟩
      obtain rfl : i = 0 := by omega
      simp [hs]
  | succ n ih =>
    cases hs : rs s with
    | none => exact .inl ⟨0, by omega, by simpa using hs, by simp, by simp only [retry.loop, countedCall_bind, hs]; rfl⟩
    | some err =>
      have hstep : retry.loop attempts (pure ()) (countedCall rs) (n + 1) s =
          retry.loop attempts (pure ()) (countedCall rs) n (s + 1) := by
        simp only [retry.loop, countedCall_bind, hs]; rfl
      have hshift : ∀ m, (∀ i < m, rs (s + 1 + i) ≠ none) → ∀ i < m + 1, rs (s + i) ≠ none := by
        intro m h i hi
        rcases i with _ | i
        · simp [hs]
        · simpa only [Nat.add_right_comm, Nat.add_assoc] using h i (by omega)
      rw [hstep]
      rcases ih (s + 1) with ⟨j, hj, hnil, hfail, hrun⟩ | ⟨hfail, err', he, hrun⟩
      · refine .inl ⟨j + 1, by omega, by rwa [← Nat.add_assoc, Nat.add_right_comm], hshift j hfail, ?_⟩
        rw [hrun]; congr 1; omega
      · refine .inr ⟨fun i hi => hshift (n + 1) (fun i hi => hfail i (by omega)) i (by omega), err',
          by rwa [Nat.add_right_comm, Nat.add_assoc] at he, ?_⟩
        rw [hrun]; congr 1; omega

/-- `f` is called up to its first nil answer, at most `retryLoops attempts + 1` times; `Retry`
returns nil iff some call answered nil, and otherwise the error built from the last answer. -/
theorem retry_counted :
    (∀ k, rs k = none → (∀ j < k, rs j ≠ none) →
      ((retry attempts (pure ()) (countedCall rs)).run 0).2 = min (k + 1) (retryLoops attempts + 1) ∧
      (((retry attempts (pure ()) (countedCall rs)).run 0).1 = none ↔ k + 1 ≤ retryLoops attempts + 1)) ∧
    ((∀ j, rs j ≠ none) →
      ((retry attempts (pure ()) (countedCall rs)).run 0).2 = retryLoops attempts + 1 ∧
      ∃ err, rs (retryLoops attempts) = some err ∧
        ((retry attempts (pure ()) (countedCall rs)).run 0).1 = some (retryError attempts err)) := by
  have hrun : (retry attempts (pure ()) (countedCall rs)).run 0 =
      retry.loop attempts (pure ()) (countedCall rs) (retryLoops attempts) 0 := rfl
  rw [hrun]
  rcases retry_loop_counted attempts rs (retryLoops attempts) 0 with
    ⟨j, hj, hnil, hfail, hr⟩ | ⟨hfail, err, he, hr⟩ <;> simp only [Nat.zero_add] at * <;> rw [hr]
  · refine ⟨fun k hk hbelow => ?_, fun hall => absurd hnil (hall j)⟩
    have hjk : j = k := by
      rcases Nat.lt_trichotomy j k with h | h | h
      · exact absurd hnil (hbelow j h)
      · exact h
      · exact absurd hk (hfail k h)
    subst hjk
    simp only [true_iff]
    omega
  · refine ⟨fun k hk _ => ?_, fun _ => ⟨rfl, err, he, rfl⟩⟩
    have : retryLoops attempts < k := by
      by_contra hle
      exact hfail k (by omega) hk
    simp only [reduceCtorEq, false_iff]
    omega

end

/-- For every `attempts` but `math.MinInt64`, where `attempts-1` does not wrap, `Retry` calls `f`
up to its first nil answer and at most `max attempts 1` times; it returns nil iff one of those
calls answered nil, and otherwise the error naming `attempts` and the last call's error. -/
theorem retry_calls (attempts : GoInt) (h : attempts ≠ BitVec.intMin 64) (rs : Nat → Option GoError) :
    (∀ k, rs k = none → (∀ j < k, rs j ≠ none) →
      ((retry attempts (pure ()) (countedCall rs)).run 0).2 = min (k + 1) (max attempts.toInt 1).toNat ∧
      (((retry attempts (pure ()) (countedCall rs)).run 0).1 = none ↔ k < (max attempts.toInt 1).toNat)) ∧
    ((∀ j, rs j ≠ none) →
      ((retry attempts (pure ()) (countedCall rs)).run 0).2 = (max attempts.toInt 1).toNat ∧
      ∃ err, rs ((max attempts.toInt 1).toNat - 1) = some err ∧
        ((retry attempts (pure ()) (countedCall rs)).run 0).1 = some (retryError attempts err)) := by
  have hn := retryLoops_add_one attempts h
  obtain ⟨hfound, hfailed⟩ := retry_counted attempts rs
  refine ⟨fun k hk hb => ?_, fun hall => ?_⟩
  · obtain ⟨hc, hnil⟩ := hfound k hk hb
    exact ⟨hn ▸ hc, hn ▸ hnil.trans Nat.add_one_le_iff⟩
  · obtain ⟨hc, err, he, hr⟩ := hfailed hall
    exact ⟨hn ▸ hc, err, by rwa [← hn, Nat.add_sub_cancel], hr⟩

/-- The first call fails, the second answers nil. -/
def failOnce : Nat → Option GoError
  | 0 => some ⟨"write failed"⟩
  | _ => none

theorem retry_min_int_calls_twice :
    (retry (BitVec.intMin 64) (pure ()) (countedCall failOnce)).run 0 = (none, 2) ∧
      (max (BitVec.intMin 64).toInt 1).toNat = 1 := by
  have hloops : retryLoops (BitVec.intMin 64) = 2 ^ 63 - 1 := by decide
  have hrun : (retry (BitVec.intMin 64) (pure ()) (countedCall failOnce)).run 0 =
      @retry.loop (StateM Nat) _ (BitVec.intMin 64) (pure ()) (countedCall failOnce)
        (retryLoops (BitVec.intMin 64)) 0 := rfl
  refine ⟨?_, by decide⟩
  rw [hrun]
  rcases retry_loop_counted (BitVec.intMin 64) failOnce (retryLoops (BitVec.intMin 64)) 0 with
    ⟨j, _, hnil, hfail, hr⟩ | ⟨hfail, _⟩
  · obtain rfl : j = 1 := by
      rcases j with _ | _ | j
      · simp [failOnce] at hnil
      · rfl
      · exact absurd rfl (hfail 1 (by omega))
    exact hr
  · exact absurd rfl (hfail 1 (by rw [hloops]; omega))

theorem retry_three_fails_once :
    (3 : GoInt) ≠ BitVec.intMin 64 ∧
    (∀ k, failOnce k = none → (∀ j < k, failOnce j ≠ none) →
      ((retry 3 (pure ()) (countedCall failOnce)).run 0).2 = min (k + 1) (max (3 : GoInt).toInt 1).toNat ∧
      (((retry 3 (pure ()) (countedCall failOnce)).run 0).1 = none ↔ k < (max (3 : GoInt).toInt 1).toNat)) ∧
    ((∀ j, failOnce j ≠ none) →
      ((retry 3 (pure ()) (countedCall failOnce)).run 0).2 = (max (3 : GoInt).toInt 1).toNat ∧
      ∃ err, failOnce ((max (3 : GoInt).toInt 1).toNat - 1) = some err ∧
        ((retry 3 (pure ()) (countedCall failOnce)).run 0).1 = some (retryError 3 err)) :=
  ⟨by decide, retry_calls 3 (by decide) failOnce⟩

end AssistedInstaller
