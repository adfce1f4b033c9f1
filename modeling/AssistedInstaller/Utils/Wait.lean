import AssistedInstaller.Model.Collaborators

/-
  AssistedInstaller.Utils.Wait — `utils.WaitForPredicate(timeout, interval, predicate)`.

  `WaitForPredicate` runs `WaitForPredicateWithTimer` under `context.TODO()`, which is
  never cancelled: each turn of its loop the `select` takes either the timeout timer,
  and the wait returns "timed out", or the ticker, and `predicate` runs; `true` ends
  the wait with nil. Which case is ready is the environment's choice
  (`Env.timerFires`). The predicate's closure state (the cluster
  `workerWaitFor2ReadyMasters` caches) is threaded through the loop.
  - `waitForPredicate_sat`: for an invariant of the closure state and of the trace so
    far that every turn of the predicate keeps, the wait returns nil only at a turn
    whose predicate held, and fails only with "timed out", after the timer fired.
-/

namespace AssistedInstaller

/-- The timeout timer's case of `WaitForPredicateWithTimer`'s `select` is the ready one. -/
def timerFires : Go Bool := Prog.choose fun env h => env.timerFires h

/-- `utils.WaitForPredicate`, for a predicate with closure state `σ`. -/
def waitForPredicate {σ : Type} (predicate : σ → Go (Bool × σ)) (fuel : Nat) (s : σ) : Go Unit :=
  Prog.loop (fun s => do
    if ← timerFires then
      Prog.emit .timedOut
      Prog.throw ⟨"timed out"⟩
    else
      let (ok, s) ← predicate s
      pure (if ok then .inr () else .inl s)) fuel s

/-- How a wait ends: nil only where `G` holds of the trace, an error only "timed out" after the
timer fired. -/
def WaitEnds (G : List Event → Prop) (t : List Event) : Out Unit → Prop
  | .ok _ => G t
  | .err e => e = ⟨"timed out"⟩ ∧ Event.timedOut ∈ t
  | .pending => True

/-- A turn of the predicate from a trace `t₀`: true only where `G` holds, false keeping the
invariant `I` of its new state, never failing. -/
def PredicateTurn {σ : Type} (I : σ → List Event → Prop) (G : List Event → Prop) (t₀ t : List Event) :
    Out (Bool × σ) → Prop
  | .ok (true, _) => G (t₀ ++ t)
  | .ok (false, s') => I s' (t₀ ++ t)
  | .err _ => False
  | .pending => True

theorem PredicateTurn.cons {σ : Type} {I : σ → List Event → Prop} {G : List Event → Prop}
    {t₀ t : List Event} {x : Event} {o : Out (Bool × σ)} (h : PredicateTurn I G (t₀ ++ [x]) t o) :
    PredicateTurn I G t₀ (x :: t) o := by
  rcases o with ⟨_ | _, _⟩ | _ | _ <;> simp_all [PredicateTurn]

theorem waitForPredicate_sat {σ : Type} (predicate : σ → Go (Bool × σ)) (I : σ → List Event → Prop)
    (G : List Event → Prop) (hp : ∀ s t₀, I s t₀ → Prog.Sat (predicate s) (PredicateTurn I G t₀)) :
    ∀ n s t₀, I s t₀ → Prog.Sat (waitForPredicate predicate n s) fun t o => WaitEnds G (t₀ ++ t) o := by
  refine Prog.Sat.loop I _ (fun s t₀ hs env h => ?_) fun _ _ _ => trivial
  simp only [timerFires, Prog.choose_bind_run]
  by_cases hb : env.timerFires h
  · simp [hb, Prog.emit_bind_run, WaitEnds]
  · have hq := hp s t₀ hs env h
    simp only [hb, Bool.false_eq_true, if_false, Prog.bind_run]
    rcases hr : predicate s env h with ⟨⟨_ | _, s'⟩ | e | _, t⟩ <;> rw [hr] at hq <;>
      simp_all [WaitEnds, PredicateTurn]

theorem waitForPredicate_emits {σ : Type} {R : Event → Prop} (predicate : σ → Go (Bool × σ))
    (hR : R .timedOut) (hp : ∀ s, Prog.Emits R (predicate s)) (n : Nat) (s : σ) :
    Prog.Emits R (waitForPredicate predicate n s) :=
  Prog.Emits.loop (fun s => (Prog.Emits.choose _).bind fun b => by
    split
    · exact (Prog.Emits.emit hR).bind fun _ => Prog.Emits.throw _
    · exact (hp s).bind fun _ => Prog.Emits.pure _) n s

end AssistedInstaller
