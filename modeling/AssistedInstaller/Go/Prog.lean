import Mathlib.Data.List.Infix

/-
  AssistedInstaller.Go.Prog — the Go runtime the installer is modelled in.

  A Go function of the installer talks to collaborators (the OS, the inventory
  service, the cluster API) and returns a value, a Go `error`, or never returns
  (its wait loops poll for as long as the world makes them). A `Prog E ε α` is
  such a function against an environment `E`: it reads the events recorded
  before it (the history the environment answers from) and returns its outcome
  with the events it recorded itself. `Out.pending` is a run cut short by fuel:
  the events it carries are a prefix of every longer run, so a property of every
  trace of every `pending` run is a property of every prefix of every run.

  `Sat m P` says every run of `m`, against every environment and history, records
  a trace `t` and ends with `o` such that `P t o`; `Sat.bind` composes the traces
  of a bind (`Seq`). Two families are derived once here and used by every module:
  - `Emits R m`: every event `m` records satisfies `R` (`Emits.bind`).
  - `Reports f L m`: the events `f` picks out of `m`'s trace are a prefix of `L`,
    all of `L` when `m` returns (`Reports.bind`, `Reports.append`).
  - `GuardedBy p B t`: every event of `t` that `p` selects comes after a prefix
    satisfying `B` (`Triple.guardedBy`); when `B` asks for no earlier such event there
    is at most one (`GuardedBy.countP_le_one`).
  - `HandsOver p K m`: at every event `p` selects, the rest of `m`'s run is the run of a
    program `K` admits, from the history up to the event: its outcome is `m`'s, its trace
    what follows the event (`HandsOver.bind_left`, `HandsOver.bind_right`).
-/

namespace AssistedInstaller

/-- A Go `error`: its text (`err.Error()`). -/
structure GoError where
  msg : String
  deriving DecidableEq, Repr

inductive Out (α : Type) where
  | ok (a : α)
  | err (e : GoError)
  | pending
  deriving DecidableEq, Repr

def Out.ofExcept {α : Type} : Except GoError α → Out α
  | .ok a => .ok a
  | .error e => .err e

def Prog (E ε α : Type) : Type := E → List ε → Out α × List ε

namespace Prog

variable {E ε α β σ : Type}

protected def pure (a : α) : Prog E ε α := fun _ _ => (.ok a, [])

protected def bind (m : Prog E ε α) (f : α → Prog E ε β) : Prog E ε β := fun env h =>
  match m env h with
  | (.ok a, t) => ((f a env (h ++ t)).1, t ++ (f a env (h ++ t)).2)
  | (.err e, t) => (.err e, t)
  | (.pending, t) => (.pending, t)

instance : Monad (Prog E ε) where
  pure := Prog.pure
  bind := Prog.bind

/-- `return err`. -/
def throw (e : GoError) : Prog E ε α := fun _ _ => (.err e, [])

/-- Out of fuel: the run goes on past what the model follows. -/
def stall : Prog E ε α := fun _ _ => (.pending, [])

def emit (x : ε) : Prog E ε Unit := fun _ _ => (.ok (), [x])

def read : Prog E ε E := fun env _ => (.ok env, [])

/-- What the environment chooses from the history without a call: which case of a `select`
is ready. -/
def choose (f : E → List ε → α) : Prog E ε α := fun env h => (.ok (f env h), [])

/-- A pure computation over what the environment fixes (a helper of a package src/ does not
hold), run where the caller runs it. -/
def compute (r : E → Except GoError α) : Prog E ε α := fun env _ => (Out.ofExcept (r env), [])

/-- `go f()`: `m` runs beside the caller, which records none of its events; the handle holds
how it ends (`pending`: it never does). -/
def spawn (m : Prog E ε α) : Prog E ε (Out α) := fun env h => (.ok (m env h).1, [])

/-- A call whose `error` the caller inspects: `v, err := f()`. -/
def attempt (m : Prog E ε α) : Prog E ε (Except GoError α) := fun env h =>
  match m env h with
  | (.ok a, t) => (.ok (.ok a), t)
  | (.err e, t) => (.ok (.error e), t)
  | (.pending, t) => (.pending, t)

/-- A call whose `error` the caller drops. -/
def discard (m : Prog E ε α) : Prog E ε Unit := do
  let _ ← attempt m

/-- `for { body }`, followed for `fuel` turns: a turn goes on with the loop's new state
(`.inl s`) or returns (`.inr b`). -/
def loop (body : σ → Prog E ε (σ ⊕ β)) : Nat → σ → Prog E ε β
  | 0, _ => stall
  | n + 1, s => do
    match ← body s with
    | .inl s => loop body n s
    | .inr b => pure b

/-- A collaborator call that may fail: the environment answers from the history, and the
call is recorded with its answer. -/
def query (get : E → List ε → Except GoError α) (record : Except GoError α → ε) :
    Prog E ε α := fun env h =>
  (Out.ofExcept (get env h), [record (get env h)])

/-- A collaborator call that cannot fail. -/
def observe (get : E → List ε → α) (record : α → ε) : Prog E ε α := fun env h =>
  (.ok (get env h), [record (get env h)])

@[simp] theorem pure_run (a : α) (env : E) (h : List ε) :
    (pure a : Prog E ε α) env h = (.ok a, []) := rfl

theorem bind_run (m : Prog E ε α) (f : α → Prog E ε β) (env : E) (h : List ε) :
    (m >>= f) env h = match m env h with
      | (.ok a, t) => ((f a env (h ++ t)).1, t ++ (f a env (h ++ t)).2)
      | (.err e, t) => (.err e, t)
      | (.pending, t) => (.pending, t) := rfl

@[simp] theorem throw_run (e : GoError) (env : E) (h : List ε) :
    (throw e : Prog E ε α) env h = (.err e, []) := rfl

@[simp] theorem stall_run (env : E) (h : List ε) : (stall : Prog E ε α) env h = (.pending, []) := rfl

@[simp] theorem emit_run (x : ε) (env : E) (h : List ε) : (emit x : Prog E ε Unit) env h = (.ok (), [x]) :=
  rfl

@[simp] theorem read_run (env : E) (h : List ε) : (read : Prog E ε E) env h = (.ok env, []) := rfl

@[simp] theorem compute_run (r : E → Except GoError α) (env : E) (h : List ε) :
    compute r env h = (Out.ofExcept (r env), []) := rfl

@[simp] theorem choose_run (f : E → List ε → α) (env : E) (h : List ε) :
    choose f env h = (.ok (f env h), []) := rfl

@[simp] theorem spawn_run (m : Prog E ε α) (env : E) (h : List ε) : spawn m env h = (.ok (m env h).1, []) :=
  rfl

@[simp] theorem query_run (get : E → List ε → Except GoError α) (record : Except GoError α → ε)
    (env : E) (h : List ε) : query get record env h = (Out.ofExcept (get env h), [record (get env h)]) :=
  rfl

@[simp] theorem observe_run (get : E → List ε → α) (record : α → ε) (env : E) (h : List ε) :
    observe get record env h = (.ok (get env h), [record (get env h)]) := rfl

theorem query_bind_run (get : E → List ε → Except GoError α) (record : Except GoError α → ε)
    (f : α → Prog E ε β) (env : E) (h : List ε) :
    (query get record >>= f) env h = match get env h with
      | .ok a => ((f a env (h ++ [record (.ok a)])).1, record (.ok a) :: (f a env (h ++ [record (.ok a)])).2)
      | .error e => (.err e, [record (.error e)]) := by
  rw [bind_run, query_run]
  cases get env h <;> rfl

theorem observe_bind_run (get : E → List ε → α) (record : α → ε) (f : α → Prog E ε β) (env : E)
    (h : List ε) : (observe get record >>= f) env h =
      ((f (get env h) env (h ++ [record (get env h)])).1,
        record (get env h) :: (f (get env h) env (h ++ [record (get env h)])).2) := rfl

theorem choose_bind_run (c : E → List ε → α) (f : α → Prog E ε β) (env : E) (h : List ε) :
    (choose c >>= f) env h = f (c env h) env h := by
  simp [bind_run]

theorem read_bind_run (f : E → Prog E ε β) (env : E) (h : List ε) : (read >>= f) env h = f env env h := by
  simp [bind_run]

theorem emit_bind_run (x : ε) (f : Unit → Prog E ε β) (env : E) (h : List ε) :
    (emit x >>= f) env h = ((f () env (h ++ [x])).1, x :: (f () env (h ++ [x])).2) := rfl

theorem attempt_query_bind_run (get : E → List ε → Except GoError α) (record : Except GoError α → ε)
    (f : Except GoError α → Prog E ε β) (env : E) (h : List ε) :
    (attempt (query get record) >>= f) env h =
      ((f (get env h) env (h ++ [record (get env h)])).1, record (get env h) :: (f (get env h) env
        (h ++ [record (get env h)])).2) := by
  simp only [bind_run, attempt, query_run]
  cases get env h <;> rfl

/-- What a sequence returns, from what its first part returns: the trace of the first part only
lengthens the history of the rest. -/
theorem bind_run_fst (m : Prog E ε α) (f : α → Prog E ε β) (env : E) (h : List ε) :
    ((m >>= f) env h).1 = match (m env h).1 with
      | .ok a => (f a env (h ++ (m env h).2)).1
      | .err e => .err e
      | .pending => .pending := by
  rw [bind_run]
  rcases m env h with ⟨a | e | _, t⟩ <;> rfl

theorem discard_query_bind_run (get : E → List ε → Except GoError α) (record : Except GoError α → ε)
    (f : Unit → Prog E ε β) (env : E) (h : List ε) :
    (discard (query get record) >>= f) env h =
      ((f () env (h ++ [record (get env h)])).1, record (get env h) :: (f () env (h ++ [record (get env h)])).2) := by
  simp only [discard, bind_run, attempt, query_run]
  cases get env h <;> rfl

theorem pure_bind_run (a : α) (f : α → Prog E ε β) (env : E) (h : List ε) :
    (pure a >>= f) env h = f a env h := by
  rw [bind_run, pure_run]
  simp

/-! ## Traces of every run -/

/-- Every run of `m` records `t` and ends with `o` such that `P t o`. -/
def Sat (m : Prog E ε α) (P : List ε → Out α → Prop) : Prop := ∀ env h, P (m env h).2 (m env h).1

/-- The traces of `m >>= f`: `m`'s trace, followed by `f a`'s when `m` returned `a`. -/
def Seq (P : List ε → Out α → Prop) (Q : α → List ε → Out β → Prop) (t : List ε) : Out β → Prop
  | .ok b => ∃ a t₁ t₂, t = t₁ ++ t₂ ∧ P t₁ (.ok a) ∧ Q a t₂ (.ok b)
  | .err e => P t (.err e) ∨ ∃ a t₁ t₂, t = t₁ ++ t₂ ∧ P t₁ (.ok a) ∧ Q a t₂ (.err e)
  | .pending => P t .pending ∨ ∃ a t₁ t₂, t = t₁ ++ t₂ ∧ P t₁ (.ok a) ∧ Q a t₂ .pending

variable {m : Prog E ε α} {f : α → Prog E ε β} {P P' : List ε → Out α → Prop}
  {Q : α → List ε → Out β → Prop}

theorem Sat.mono (hm : Sat m P) (hP : ∀ t o, P t o → P' t o) : Sat m P' :=
  fun env h => hP _ _ (hm env h)

theorem Sat.bind (hm : Sat m P) (hf : ∀ a, Sat (f a) (Q a)) : Sat (m >>= f) (Seq P Q) := by
  intro env h
  have hp := hm env h
  rw [bind_run]
  rcases hr : m env h with ⟨a | e | _, t⟩ <;> rw [hr] at hp <;> dsimp only
  · have hq := hf a env (h ++ t)
    rcases hr' : f a env (h ++ t) with ⟨b | e | _, t'⟩ <;> rw [hr'] at hq <;> dsimp only [Seq]
    · exact ⟨a, t, t', rfl, hp, hq⟩
    · exact Or.inr ⟨a, t, t', rfl, hp, hq⟩
    · exact Or.inr ⟨a, t, t', rfl, hp, hq⟩
  · exact Or.inl hp
  · exact Or.inl hp

theorem Sat.attempt (hm : Sat m P) :
    Sat (Prog.attempt m) (fun t o => (∀ a, o = .ok (.ok a) → P t (.ok a)) ∧
      (∀ e, o = .ok (.error e) → P t (.err e)) ∧ (o = .pending → P t .pending)) := by
  intro env h
  have hp := hm env h
  simp only [Prog.attempt]
  rcases hr : m env h with ⟨a | e | _, t⟩ <;> rw [hr] at hp <;> simp [hp]

theorem Sat.pure (a : α) : Sat (Pure.pure a : Prog E ε α) fun t o => t = [] ∧ o = .ok a :=
  fun _ _ => ⟨rfl, rfl⟩

theorem Sat.emit (x : ε) : Sat (Prog.emit x : Prog E ε Unit) fun t o => t = [x] ∧ o = .ok () :=
  fun _ _ => ⟨rfl, rfl⟩

theorem Sat.throw (e : GoError) : Sat (Prog.throw e : Prog E ε α) fun t o => t = [] ∧ o = .err e :=
  fun _ _ => ⟨rfl, rfl⟩

theorem Sat.stall : Sat (Prog.stall : Prog E ε α) fun t o => t = [] ∧ o = .pending :=
  fun _ _ => ⟨rfl, rfl⟩

theorem Sat.choose (f : E → List ε → α) : Sat (Prog.choose f) fun t o => t = [] ∧ ∃ a, o = .ok a :=
  fun _ _ => ⟨rfl, _, rfl⟩

/-- The loop rule: an invariant `I` of the loop's state and of its trace so far (from `t₀`)
that each turn keeps, and that gives `R` wherever the loop stops. -/
theorem Sat.loop {body : σ → Prog E ε (σ ⊕ β)} (I : σ → List ε → Prop) (R : List ε → Out β → Prop)
    (hbody : ∀ s t₀, I s t₀ → Sat (body s) fun t o => match o with
      | .ok (.inl s') => I s' (t₀ ++ t)
      | .ok (.inr b) => R (t₀ ++ t) (.ok b)
      | .err e => R (t₀ ++ t) (.err e)
      | .pending => R (t₀ ++ t) .pending)
    (hstall : ∀ s t₀, I s t₀ → R t₀ .pending) :
    ∀ n s t₀, I s t₀ → Sat (Prog.loop body n s) fun t o => R (t₀ ++ t) o := by
  intro n
  induction n with
  | zero => intro s t₀ hs _ _; simpa [Prog.loop] using hstall s t₀ hs
  | succ n ih =>
    intro s t₀ hs env h
    have hb := hbody s t₀ hs env h
    simp only [Prog.loop, bind_run]
    rcases hr : body s env h with ⟨c | e | _, t⟩ <;> rw [hr] at hb <;> dsimp only
    · rcases c with s' | b
      · simpa using ih s' (t₀ ++ t) hb env (h ++ t)
      · simpa using hb
    · exact hb
    · exact hb

/-! ## Programs that always return -/

/-- Every run of `m` returns (never runs out of fuel) with a result `r` such that `P t r`. -/
def Ends (m : Prog E ε α) (P : List ε → Except GoError α → Prop) : Prop :=
  Sat m fun t o => ∃ r, o = Out.ofExcept r ∧ P t r

/-- The traces of a bind of two programs that always return. -/
def SeqE (P : List ε → Except GoError α → Prop) (Q : α → List ε → Except GoError β → Prop)
    (t : List ε) (r : Except GoError β) : Prop :=
  (∃ e, r = .error e ∧ P t (.error e)) ∨ ∃ a t₁ t₂, t = t₁ ++ t₂ ∧ P t₁ (.ok a) ∧ Q a t₂ r

variable {PE PE' : List ε → Except GoError α → Prop} {QE : α → List ε → Except GoError β → Prop}

theorem Ends.mono (hm : Ends m PE) (hP : ∀ t r, PE t r → PE' t r) : Ends m PE' :=
  Sat.mono hm fun _ _ ⟨r, ho, h⟩ => ⟨r, ho, hP _ _ h⟩

theorem Ends.bind (hm : Ends m PE) (hf : ∀ a, Ends (f a) (QE a)) : Ends (m >>= f) (SeqE PE QE) := by
  refine (Sat.bind hm hf).mono fun t o h => ?_
  rcases o with b | e | _ <;> simp only [Seq] at h
  · obtain ⟨a, t₁, t₂, rfl, ⟨r, hr, hp⟩, ⟨r', hr', hq⟩⟩ := h
    rcases r with _ | a' <;> simp only [Out.ofExcept, Out.ok.injEq, reduceCtorEq] at hr
    rcases r' with _ | b' <;> simp only [Out.ofExcept, Out.ok.injEq, reduceCtorEq] at hr'
    subst hr hr'
    exact ⟨.ok _, rfl, .inr ⟨_, t₁, t₂, rfl, hp, hq⟩⟩
  · rcases h with ⟨r, hr, hp⟩ | ⟨a, t₁, t₂, rfl, ⟨r, hr, hp⟩, ⟨r', hr', hq⟩⟩
    · rcases r with e' | _ <;> simp only [Out.ofExcept, Out.err.injEq, reduceCtorEq] at hr
      subst hr
      exact ⟨.error e, rfl, .inl ⟨e, rfl, hp⟩⟩
    · rcases r with _ | a' <;> simp only [Out.ofExcept, Out.ok.injEq, reduceCtorEq] at hr
      rcases r' with e' | _ <;> simp only [Out.ofExcept, Out.err.injEq, reduceCtorEq] at hr'
      subst hr hr'
      exact ⟨.error _, rfl, .inr ⟨_, t₁, t₂, rfl, hp, hq⟩⟩
  · rcases h with ⟨r, hr, _⟩ | ⟨_, _, _, _, _, ⟨r, hr, _⟩⟩ <;> cases r <;> cases hr

theorem Ends.pure (a : α) : Ends (Pure.pure a : Prog E ε α) fun t r => t = [] ∧ r = .ok a :=
  fun _ _ => ⟨.ok a, rfl, rfl, rfl⟩

theorem Ends.query (get : E → List ε → Except GoError α) (record : Except GoError α → ε) :
    Ends (Prog.query get record) fun t r => t = [record r] :=
  fun env h => ⟨get env h, rfl, rfl⟩

theorem Ends.observe (get : E → List ε → α) (record : α → ε) :
    Ends (Prog.observe get record) fun t r => ∃ a, r = .ok a ∧ t = [record a] :=
  fun env h => ⟨.ok (get env h), rfl, _, rfl, rfl⟩

/-! ## Events a program may record -/

/-- Every event `m` records satisfies `R`. -/
def Emits (R : ε → Prop) (m : Prog E ε α) : Prop := Sat m fun t _ => ∀ x ∈ t, R x

variable {R : ε → Prop}

theorem Emits.bind (hm : Emits R m) (hf : ∀ a, Emits R (f a)) : Emits R (m >>= f) := by
  intro env h
  have hp := hm env h
  rw [bind_run]
  rcases hr : m env h with ⟨a | e | _, t⟩ <;> rw [hr] at hp
  · intro x hx
    rcases List.mem_append.mp hx with hx | hx
    exacts [hp x hx, hf a env (h ++ t) x hx]
  · exact hp
  · exact hp

theorem Emits.mono {R' : ε → Prop} (hm : Emits R m) (hR : ∀ x, R x → R' x) : Emits R' m :=
  Sat.mono hm fun _ _ h x hx => hR x (h x hx)

theorem Emits.pure (a : α) : Emits R (pure a : Prog E ε α) := fun _ _ x hx => by simp at hx

theorem Emits.throw (e : GoError) : Emits R (Prog.throw e : Prog E ε α) := fun _ _ x hx => by
  simp at hx

theorem Emits.stall : Emits R (Prog.stall : Prog E ε α) := fun _ _ x hx => by simp at hx

theorem Emits.ite {c : Prop} [Decidable c] {m₁ m₂ : Prog E ε α} (h₁ : Emits R m₁) (h₂ : Emits R m₂) :
    Emits R (if c then m₁ else m₂) := by
  split
  exacts [h₁, h₂]

/-- `Emits.ite` when a branch's events are known only under its own condition. -/
theorem Emits.ite_of {c : Prop} [Decidable c] {m₁ m₂ : Prog E ε α} (h₁ : c → Emits R m₁)
    (h₂ : ¬c → Emits R m₂) : Emits R (if c then m₁ else m₂) := by
  split
  exacts [h₁ ‹_›, h₂ ‹_›]

theorem Emits.read : Emits R (Prog.read : Prog E ε E) := fun _ _ x hx => by simp at hx

theorem Emits.compute (r : E → Except GoError α) : Emits R (Prog.compute r) := fun _ _ x hx => by
  simp at hx

theorem Emits.choose (f : E → List ε → α) : Emits R (Prog.choose f) := fun _ _ x hx => by simp at hx

theorem Emits.spawn (m : Prog E ε α) : Emits R (Prog.spawn m) := fun _ _ x hx => by simp at hx

theorem Emits.loop {body : σ → Prog E ε (σ ⊕ β)} (hb : ∀ s, Emits R (body s)) :
    ∀ n s, Emits R (Prog.loop body n s) := by
  intro n
  induction n with
  | zero => exact fun _ => Emits.stall
  | succ n ih =>
    intro s
    refine (hb s).bind fun c => ?_
    rcases c with s' | b
    exacts [ih s', Emits.pure b]

theorem Emits.emit {x : ε} (hx : R x) : Emits R (Prog.emit x : Prog E ε Unit) := fun _ _ y hy => by
  simp only [emit_run, List.mem_singleton] at hy
  exact hy ▸ hx

theorem Emits.attempt (hm : Emits R m) : Emits R (Prog.attempt m) := fun env h => by
  have hp := hm env h
  simp only [Prog.attempt]
  rcases hr : m env h with ⟨a | e | _, t⟩ <;> rw [hr] at hp <;> exact hp

theorem Emits.discard (hm : Emits R m) : Emits R (Prog.discard m) :=
  hm.attempt.bind fun _ => Emits.pure _

theorem Emits.query {get : E → List ε → Except GoError α} {record : Except GoError α → ε}
    (hr : ∀ r, R (record r)) : Emits R (Prog.query get record) := fun _ _ x hx => by
  simp only [query_run, List.mem_singleton] at hx
  exact hx ▸ hr _

theorem Emits.observe {get : E → List ε → α} {record : α → ε} (hr : ∀ r, R (record r)) :
    Emits R (Prog.observe get record) := fun _ _ x hx => by
  simp only [observe_run, List.mem_singleton] at hx
  exact hx ▸ hr _

/-! ## How many events of a kind -/

/-- Every run of `m` records at most `k` events satisfying `A`. -/
def AtMost (A : ε → Bool) (k : Nat) (m : Prog E ε α) : Prop := Sat m fun t _ => t.countP A ≤ k

section
variable {A : ε → Bool} {k l : Nat}

theorem AtMost.bind (hm : AtMost A k m) (hf : ∀ a, AtMost A l (f a)) : AtMost A (k + l) (m >>= f) :=
  fun env h => by
  have h₁ := hm env h
  rw [bind_run]
  rcases hr : m env h with ⟨a | e | _, t⟩ <;> rw [hr] at h₁ <;> dsimp only at h₁ ⊢
  · have h₂ := hf a env (h ++ t)
    rw [List.countP_append]
    omega
  all_goals omega

theorem AtMost.mono (hm : AtMost A k m) (h : k ≤ l) : AtMost A l m :=
  Sat.mono hm fun _ _ ht => ht.trans h

theorem AtMost.of_emits (hm : Emits (fun x => A x = false) m) : AtMost A 0 m :=
  Sat.mono hm fun t _ ht => by simpa [List.countP_eq_zero] using ht

end

/-! ## What a program shows when it returns -/

/-- Every run of `m` that returns `a` records a trace `t` with `B a t`. -/
def Returns (B : α → List ε → Prop) (m : Prog E ε α) : Prop := Sat m fun t o => ∀ a, o = .ok a → B a t

/-- Every run of `m` that returns recorded an event satisfying `Q` (which may name what the
environment answers). -/
def Shows (Q : E → ε → Prop) (m : Prog E ε α) : Prop :=
  ∀ env h a, (m env h).1 = .ok a → ∃ x ∈ (m env h).2, Q env x

section
variable {B : α → List ε → Prop} {C : α → β → List ε → Prop} {Q : ε → Prop}

theorem Returns.bind (hm : Returns B m) (hf : ∀ a, Returns (C a) (f a)) :
    Returns (fun b t => ∃ a t₁ t₂, t = t₁ ++ t₂ ∧ B a t₁ ∧ C a b t₂) (m >>= f) :=
  (Sat.bind hm hf).mono fun t o h b hb => by
    subst hb
    obtain ⟨a, t₁, t₂, rfl, h₁, h₂⟩ := h
    exact ⟨a, t₁, t₂, rfl, h₁ a rfl, h₂ b rfl⟩

theorem Returns.mono {B' : α → List ε → Prop} (hm : Returns B m) (hB : ∀ a t, B a t → B' a t) :
    Returns B' m :=
  Sat.mono hm fun _ _ h a ha => hB _ _ (h a ha)

theorem Returns.any : Returns (fun _ _ => True) m := fun _ _ _ _ => trivial

theorem Returns.throw (e : GoError) : Returns B (Prog.throw e : Prog E ε α) := fun _ _ _ h => by cases h

theorem Returns.pure (a : α) : Returns (fun b t => b = a ∧ t = []) (Pure.pure a : Prog E ε α) :=
  fun _ _ _ h => by cases h; exact ⟨rfl, rfl⟩

theorem Returns.query (get : E → List ε → Except GoError α) (record : Except GoError α → ε) :
    Returns (fun a t => t = [record (.ok a)]) (Prog.query get record) := fun env h a ha => by
  simp only [query_run] at ha ⊢
  cases hg : get env h <;> simp [hg, Out.ofExcept] at ha
  rw [ha]

theorem Returns.observe (get : E → List ε → α) (record : α → ε) :
    Returns (fun a t => t = [record a]) (Prog.observe get record) := fun env h a ha => by
  simp only [observe_run, Out.ok.injEq] at ha ⊢
  rw [ha]

theorem Returns.ite {c : Prop} [Decidable c] {m₁ m₂ : Prog E ε α} (h₁ : c → Returns B m₁)
    (h₂ : ¬c → Returns B m₂) : Returns B (if c then m₁ else m₂) := by
  split
  exacts [h₁ ‹_›, h₂ ‹_›]

theorem Returns.and {B' : α → List ε → Prop} (hm : Returns B m) (hm' : Returns B' m) :
    Returns (fun a t => B a t ∧ B' a t) m :=
  fun env h a ha => ⟨hm env h a ha, hm' env h a ha⟩

/-- What the returned value is, whatever came before. -/
theorem Returns.bind_value {V : β → Prop} (hf : ∀ a, Returns (fun b _ => V b) (f a)) :
    Returns (fun b _ => V b) (m >>= f) :=
  (Returns.bind (@Returns.any _ _ _ m) hf).mono fun _ _ ⟨_, _, _, _, _, h⟩ => h

/-- `Returns.bind_value` where what follows `m` returns a `W` value only after the values `m`
returns. -/
theorem Returns.bind_of_returns {V : α → Prop} {W : β → Prop} (hv : Returns (fun a _ => V a) m)
    (hf : ∀ a, V a → Returns (fun b _ => W b) (f a)) : Returns (fun b _ => W b) (m >>= f) :=
  fun env h b hb => by
  have hva := hv env h
  rw [bind_run] at hb
  rcases hr : m env h with ⟨a | e | _, t⟩ <;> rw [hr] at hb hva <;> dsimp only at hb
  · exact hf a (hva a rfl) env _ b hb
  all_goals cases hb

/-- `Emits.bind` where what follows `m` emits only `R` after the values `m` returns. -/
theorem Emits.bind_of_returns {R : ε → Prop} {V : α → Prop} (hm : Emits R m) (hv : Returns (fun a _ => V a) m)
    (hf : ∀ a, V a → Emits R (f a)) : Emits R (m >>= f) := fun env h x hx => by
  have h₁ := hm env h
  have hva := hv env h
  rw [bind_run] at hx
  rcases hr : m env h with ⟨a | e | _, t⟩ <;> rw [hr] at hx h₁ hva <;> dsimp only at hx
  · rcases List.mem_append.mp hx with hx | hx
    exacts [h₁ x hx, hf a (hva a rfl) env (h ++ t) x hx]
  all_goals exact h₁ x hx

theorem Shows.throw {Q : E → ε → Prop} (e : GoError) : Shows Q (Prog.throw e : Prog E ε α) :=
  fun _ _ _ h => by cases h

theorem Shows.returns {Q : ε → Prop} (hm : Shows (fun _ => Q) m) : Returns (fun _ t => ∃ x ∈ t, Q x) m :=
  fun env h a ha => hm env h a ha

theorem Shows.bind_left {Q : E → ε → Prop} (hm : Shows Q m) : Shows Q (m >>= f) := fun env h b hb => by
  have h₁ := hm env h
  rw [bind_run] at hb ⊢
  rcases hr : m env h with ⟨a | e | _, t⟩ <;> rw [hr] at hb h₁ <;> dsimp only at hb ⊢
  all_goals try cases hb
  obtain ⟨x, hx, hq⟩ := h₁ a rfl
  exact ⟨x, List.mem_append_left _ hx, hq⟩

theorem Shows.bind_right {Q : E → ε → Prop} (hf : ∀ a, Shows Q (f a)) : Shows Q (m >>= f) :=
  fun env h b hb => by
  rw [bind_run] at hb ⊢
  rcases hr : m env h with ⟨a | e | _, t⟩ <;> rw [hr] at hb <;> dsimp only at hb ⊢
  all_goals try cases hb
  obtain ⟨x, hx, hq⟩ := hf a env (h ++ t) b hb
  exact ⟨x, List.mem_append_right _ hx, hq⟩

/-- `Shows.bind_right` where what follows `m` shows `Q` only after the values `m` returns. -/
theorem Shows.bind_of_returns {Q : E → ε → Prop} {V : α → Prop} (hv : Returns (fun a _ => V a) m)
    (hf : ∀ a, V a → Shows Q (f a)) : Shows Q (m >>= f) := fun env h b hb => by
  have hva := hv env h
  rw [bind_run] at hb ⊢
  rcases hr : m env h with ⟨a | e | _, t⟩ <;> rw [hr] at hb hva <;> dsimp only at hb ⊢
  all_goals try cases hb
  obtain ⟨x, hx, hq⟩ := hf a (hva a rfl) env (h ++ t) b hb
  exact ⟨x, List.mem_append_right _ hx, hq⟩

theorem Shows.ite {Q : E → ε → Prop} {c : Prop} [Decidable c] {m₁ m₂ : Prog E ε α}
    (h₁ : c → Shows Q m₁) (h₂ : ¬c → Shows Q m₂) : Shows Q (if c then m₁ else m₂) := by
  split
  exacts [h₁ ‹_›, h₂ ‹_›]

theorem Shows.emit {Q : E → ε → Prop} {x : ε} (hx : ∀ env, Q env x) : Shows Q (Prog.emit x : Prog E ε Unit) :=
  fun env _ _ _ => ⟨x, by simp, hx env⟩

theorem Shows.query {Q : E → ε → Prop} {get : E → List ε → Except GoError α} {record : Except GoError α → ε}
    (hr : ∀ env a, Q env (record (.ok a))) : Shows Q (Prog.query get record) := fun env h a ha => by
  simp only [query_run] at ha ⊢
  cases hg : get env h <;> simp [hg, Out.ofExcept] at ha
  exact ⟨_, List.mem_singleton_self _, ha ▸ hr env a⟩

/-- A call whose error the caller drops: its event, whatever the answer. -/
theorem Shows.discard_query {Q : E → ε → Prop} {get : E → List ε → Except GoError α}
    {record : Except GoError α → ε} (hr : ∀ env r, Q env (record r)) :
    Shows Q (Prog.discard (Prog.query get record)) := fun env h _ _ => by
  simp only [discard, bind_run, attempt, query_run]
  cases get env h <;> exact ⟨_, List.mem_append_left _ (List.mem_singleton_self _), hr env _⟩

/-- A loop returns only at a turn that returned, so what such a turn shows, the loop shows. -/
theorem Shows.loop {Q : E → ε → Prop} {body : σ → Prog E ε (σ ⊕ β)}
    (hb : ∀ s env h b, (body s env h).1 = .ok (.inr b) → ∃ x ∈ (body s env h).2, Q env x) :
    ∀ n s, Shows Q (Prog.loop body n s) := by
  intro n
  induction n with
  | zero => exact fun _ _ _ _ h => by simp [Prog.loop] at h
  | succ n ih =>
    intro s env h b ho
    have h₁ := hb s env h
    simp only [Prog.loop, bind_run] at ho ⊢
    rcases hr : body s env h with ⟨c | e | _, t⟩ <;> rw [hr] at h₁ ho <;> dsimp only at ho ⊢
    all_goals try cases ho
    rcases c with s' | b'
    · obtain ⟨x, hx, hq⟩ := ih s' env (h ++ t) b ho
      exact ⟨x, List.mem_append_right _ hx, hq⟩
    · obtain ⟨x, hx, hq⟩ := h₁ b' rfl
      exact ⟨x, List.mem_append_left _ hx, hq⟩

end

/-! ## Triples over the trace so far -/

/-- In environment `env`, from a trace `t₀` satisfying `P`, every run of `m` that returns `a`
leaves `t₀ ++ t` satisfying `Q a`, and every run that stops (`some e`: fails with `e`; `none`:
runs on past its fuel) leaves it satisfying `S`. The trace so far is the state these triples
reason about; fixing the environment lets assertions name what it answers. -/
def Triple (env : E) (P : List ε → Prop) (m : Prog E ε α) (Q : α → List ε → Prop)
    (S : List ε → Option GoError → Prop) : Prop :=
  ∀ t₀, P t₀ → ∀ h, match (m env h).1 with
    | .ok a => Q a (t₀ ++ (m env h).2)
    | .err e => S (t₀ ++ (m env h).2) (some e)
    | .pending => S (t₀ ++ (m env h).2) none

section
variable {env : E} {P P' : List ε → Prop} {Qa Qa' : α → List ε → Prop} {Qb : β → List ε → Prop}
  {S S' : List ε → Option GoError → Prop}

theorem Triple.bind (hm : Triple env P m Qa S) (hf : ∀ a, Triple env (Qa a) (f a) Qb S) :
    Triple env P (m >>= f) Qb S := by
  intro t₀ hP h
  have h₁ := hm t₀ hP h
  rw [bind_run]
  rcases hr : m env h with ⟨a | e | _, t⟩ <;> rw [hr] at h₁ <;> dsimp only at h₁ ⊢
  · have h₂ := hf a (t₀ ++ t) h₁ (h ++ t)
    rcases hr' : f a env (h ++ t) with ⟨b | e | _, t'⟩ <;> rw [hr'] at h₂ <;> simpa using h₂
  · exact h₁
  · exact h₁

theorem Triple.conseq (hm : Triple env P m Qa S) (hP : ∀ t, P' t → P t) (hQ : ∀ a t, Qa a t → Qa' a t)
    (hS : ∀ t e, S t e → S' t e) : Triple env P' m Qa' S' := fun t₀ h hist => by
  have := hm t₀ (hP t₀ h) hist
  rcases hr : m env hist with ⟨a | e | _, t⟩ <;> rw [hr] at this
  exacts [hQ _ _ this, hS _ _ this, hS _ _ this]

theorem Triple.pure (a : α) : Triple env (Qa a) (Pure.pure a : Prog E ε α) Qa S :=
  fun t₀ h _ => by simpa using h

/-- `pure a`, from a precondition that gives the postcondition at `a`. -/
theorem Triple.pure_of (a : α) (h : ∀ t, P t → Qa a t) : Triple env P (Pure.pure a : Prog E ε α) Qa S :=
  fun t₀ hp _ => by simpa using h t₀ hp

theorem Triple.throw (e : GoError) :
    Triple env (fun t => S t (some e)) (Prog.throw e : Prog E ε α) Qa S :=
  fun t₀ h _ => by simpa using h

theorem Triple.stall : Triple env (fun t => S t none) (Prog.stall : Prog E ε α) Qa S :=
  fun t₀ h _ => by simpa using h

theorem Triple.ite {c : Prop} [Decidable c] {m₁ m₂ : Prog E ε α} (h₁ : c → Triple env P m₁ Qa S)
    (h₂ : ¬c → Triple env P m₂ Qa S) : Triple env P (if c then m₁ else m₂) Qa S := by
  split
  exacts [h₁ ‹_›, h₂ ‹_›]

/-- What every run of `m` in `env` from a trace satisfying `P` leaves when it returns, added to a
triple's postcondition. -/
theorem Triple.add {V : α → List ε → Prop} (hm : Triple env P m Qa S)
    (hv : ∀ t₀ h a, P t₀ → (m env h).1 = .ok a → V a (t₀ ++ (m env h).2)) :
    Triple env P m (fun a t => Qa a t ∧ V a t) S := fun t₀ hp h => by
  have h₁ := hm t₀ hp h
  have h₂ := hv t₀ h
  revert h₁ h₂
  rcases m env h with ⟨a | e | _, t⟩
  exacts [fun h₁ h₂ => ⟨h₁, h₂ a hp rfl⟩, fun h₁ _ => h₁, fun h₁ _ => h₁]

/-- What `m` returns, added to a triple's postcondition. -/
theorem Triple.add_returns {V : α → Prop} (hm : Triple env P m Qa S) (hv : Returns (fun a _ => V a) m) :
    Triple env P m (fun a t => Qa a t ∧ V a) S :=
  hm.add fun _ h a _ ha => hv env h a ha

/-- A fact of the precondition that does not depend on the trace, taken as a hypothesis. -/
theorem Triple.pull {c : Prop} (hm : c → Triple env P m Qa S) : Triple env (fun t => P t ∧ c) m Qa S :=
  fun t₀ ⟨hp, hc⟩ h => hm hc t₀ hp h

/-- A collaborator call: its event, appended to the trace so far, meets the postcondition when
the call answers, and the stop condition when it fails. -/
theorem Triple.query {get : E → List ε → Except GoError α} {record : Except GoError α → ε}
    (hok : ∀ t a, P t → Qa a (t ++ [record (.ok a)])) (herr : ∀ t e, P t → S (t ++ [record (.error e)]) (some e)) :
    Triple env P (query get record) Qa S := fun t₀ hp h => by
  simp only [query_run]
  cases get env h
  exacts [herr t₀ _ hp, hok t₀ _ hp]

theorem Triple.emit {Q : Unit → List ε → Prop} (x : ε) :
    Triple env (fun t => Q () (t ++ [x])) (Prog.emit x : Prog E ε Unit) Q S :=
  fun _ h _ => by simpa using h

theorem Triple.read : Triple env P (Prog.read : Prog E ε E) (fun e t => P t ∧ e = env) S :=
  fun t₀ hp _ => by simpa using hp

/-- A call whose error the caller inspects: its event, appended to the trace so far. -/
theorem Triple.attempt_query {get : E → List ε → Except GoError α} {record : Except GoError α → ε} :
    Triple env P (attempt (Prog.query get record)) (fun r t => ∃ t₀, P t₀ ∧ t = t₀ ++ [record r]) S :=
  fun t₀ hp h => by
    simp only [attempt, query_run]
    cases get env h <;> exact ⟨t₀, hp, rfl⟩

/-- A call whose error the caller inspects: a failure of `m` is returned as `error`. -/
theorem Triple.attempt {Q : Except GoError α → List ε → Prop}
    (hm : Triple env P m (fun a => Q (.ok a)) fun t o => o.elim (S t none) fun e => Q (.error e) t) :
    Triple env P (attempt m) Q S := fun t₀ hp h => by
  have h₁ := hm t₀ hp h
  simp only [Prog.attempt]
  rcases hr : m env h with ⟨a | e | _, t⟩ <;> rw [hr] at h₁ <;> exact h₁

/-- A triple from what every run of `m` records on its own. -/
theorem Triple.of_sat {L : List ε → Out α → Prop} (hm : Sat m L)
    (h : ∀ t₀ t o, P t₀ → L t o → match o with
      | .ok a => Qa a (t₀ ++ t)
      | .err e => S (t₀ ++ t) (some e)
      | .pending => S (t₀ ++ t) none) : Triple env P m Qa S :=
  fun t₀ hP hist => h t₀ _ _ hP (hm env hist)

/-- A triple from what `m` shows of its own events when it returns, for runs that return. -/
theorem Triple.of_returns {B : α → List ε → Prop} (hm : Returns B m)
    (hQ : ∀ a t₀ t, P t₀ → B a t → Qa a (t₀ ++ t)) : Triple env P m Qa fun _ _ => True :=
  Triple.of_sat hm fun t₀ t o hp hb => by
    rcases o with a | _ | _
    exacts [hQ a t₀ t hp (hb a rfl), trivial, trivial]

/-- What `m` shows of its own events, added to a fact about the trace so far that later
events cannot break. -/
theorem Triple.extend {B : α → List ε → Prop} (hm : Returns B m) (hP : ∀ t t', P t → P (t ++ t'))
    (hB : ∀ a t t', B a t → B a (t' ++ t)) : Triple env P m (fun a t => P t ∧ B a t) fun _ _ => True :=
  Triple.of_returns hm fun _ _ _ hp hb => ⟨hP _ _ hp, hB _ _ _ hb⟩

/-- A fact about the trace so far that later events cannot break holds after any `m`. -/
theorem Triple.frame (hP : ∀ t t', P t → P (t ++ t')) : Triple env P m (fun _ => P) fun _ _ => True :=
  Triple.of_returns Returns.any fun _ _ _ hp _ => hP _ _ hp

/-- An invariant of the trace kept by every event `m` may record. -/
theorem Triple.of_emits {Rx : ε → Prop} {I : List ε → Prop} (hm : Emits Rx m)
    (hI : ∀ t x, I t → Rx x → I (t ++ [x])) : Triple env I m (fun _ => I) (fun t _ => I t) := by
  have hI' : ∀ t t', I t → (∀ x ∈ t', Rx x) → I (t ++ t') := by
    intro t t' ht h'
    induction t' using List.reverseRecOn with
    | nil => simpa using ht
    | append_singleton t' x ih =>
      rw [← List.append_assoc]
      exact hI _ x (ih fun y hy => h' y (by simp [hy])) (h' x (by simp))
  refine Triple.of_sat hm fun t₀ t o h₀ ht => ?_
  rcases o with _ | _ | _ <;> exact hI' t₀ t h₀ ht

/-- An `Emits` fact as an invariant of the whole trace so far. -/
theorem Triple.all {R : ε → Prop} (hm : Emits R m) :
    Triple env (fun t => ∀ x ∈ t, R x) m (fun _ t => ∀ x ∈ t, R x) fun t _ => ∀ x ∈ t, R x :=
  Triple.of_emits hm fun _ x ht hx y hy => by
    rcases List.mem_append.mp hy with hy | hy
    exacts [ht y hy, List.mem_singleton.mp hy ▸ hx]

/-- The loop rule, with an invariant of the loop's state and of the trace so far. -/
theorem Triple.loop {body : σ → Prog E ε (σ ⊕ β)} (I : σ → List ε → Prop)
    (hbody : ∀ s, Triple env (I s) (body s) (fun c t => match c with
      | .inl s' => I s' t
      | .inr b => Qb b t) S)
    (hstall : ∀ s t, I s t → S t none) : ∀ n s, Triple env (I s) (Prog.loop body n s) Qb S := by
  intro n
  induction n with
  | zero => exact fun s => (Triple.stall).conseq (hstall s) (fun _ _ h => h) fun _ _ h => h
  | succ n ih =>
    intro s
    refine (hbody s).bind fun c => ?_
    rcases c with s' | b
    exacts [ih s', Triple.pure b]

theorem Triple.and {P₂ : List ε → Prop} {Q₂ : α → List ε → Prop} {S₂ : List ε → Option GoError → Prop}
    (h₁ : Triple env P m Qa S) (h₂ : Triple env P₂ m Q₂ S₂) :
    Triple env (fun t => P t ∧ P₂ t) m (fun a t => Qa a t ∧ Q₂ a t) (fun t e => S t e ∧ S₂ t e) :=
  fun t₀ ⟨hp, hp₂⟩ h => by
    have a₁ := h₁ t₀ hp h
    have a₂ := h₂ t₀ hp₂ h
    revert a₁ a₂
    rcases m env h with ⟨a | e | _, t⟩ <;> exact fun a₁ a₂ => ⟨a₁, a₂⟩

/-- A call whose error is dropped keeps what the call keeps. -/
theorem Triple.discard {Q : List ε → Prop} (hm : Triple env P m (fun _ => Q) fun t _ => Q t) :
    Triple env P (Prog.discard m) (fun _ => Q) fun t _ => Q t := fun t₀ hp h => by
  have h₁ := hm t₀ hp h
  simp only [Prog.discard, bind_run, Prog.attempt]
  rcases hr : m env h with ⟨a | e | _, t⟩ <;> rw [hr] at h₁ <;> simpa using h₁

/-- A triple whose postcondition and stop condition are one fact of the trace: it holds of the
trace of every run from the empty one. -/
theorem Triple.run_of {Q : List ε → Prop} (hm : Triple env P m (fun _ => Q) fun t _ => Q t) (h₀ : P [])
    (h : List ε) : Q (m env h).2 := by
  have hq := hm [] h₀ h
  revert hq
  rcases (m env h).1 with _ | _ | _ <;> exact fun hq => by simpa using hq

/-- From the empty trace: what every run records. -/
theorem Triple.run (hm : Triple env (fun t => t = []) m Qa S) (h : List ε) : match (m env h).1 with
    | .ok a => Qa a (m env h).2
    | .err e => S (m env h).2 (some e)
    | .pending => S (m env h).2 none := by
  simpa using hm [] rfl h

end

/-! ## Events guarded by what came before them -/

/-- Every event of `t` that `p` selects comes after a prefix satisfying `B`. -/
def GuardedBy (p : ε → Prop) (B : List ε → Prop) (t : List ε) : Prop :=
  ∀ pre x post, t = pre ++ x :: post → p x → B pre

section
variable {p : ε → Prop} {B : List ε → Prop} {t : List ε} {x : ε}

theorem GuardedBy.nil : GuardedBy p B [] := fun pre x post h _ => by simp at h

theorem GuardedBy.snoc (h : GuardedBy p B t) (hx : p x → B t) : GuardedBy p B (t ++ [x]) := by
  intro pre y post ht hy
  rcases List.eq_nil_or_concat post with rfl | ⟨post', z, rfl⟩
  · obtain ⟨rfl, hyx⟩ := List.append_inj' ht rfl
    obtain rfl : x = y := List.singleton_inj.mp hyx
    exact hx hy
  · rw [List.concat_eq_append, ← List.cons_append, ← List.append_assoc] at ht
    exact h pre y post' (List.append_inj' ht rfl).1 hy

/-- Events `p` does not select keep every guard. -/
theorem Triple.guardedBy {env : E} {m : Prog E ε α} (hm : Emits (fun x => ¬p x) m) :
    Triple env (GuardedBy p B) m (fun _ => GuardedBy p B) fun t _ => GuardedBy p B t :=
  Triple.of_emits hm fun _ _ h hx => h.snoc fun hp => absurd hp hx

/-- An event each of whose occurrences comes after none occurs at most once. -/
theorem GuardedBy.countP_le_one [DecidablePred p] (h : GuardedBy p (fun pre => ∀ y ∈ pre, ¬p y) t) :
    t.countP (fun y => decide (p y)) ≤ 1 := by
  by_cases hall : ∀ y ∈ t, ¬p y
  · rw [List.countP_eq_zero.mpr fun y hy hp => hall y hy (of_decide_eq_true hp)]
    exact Nat.zero_le _
  obtain ⟨x, hx, hp⟩ := not_forall₂.mp hall
  obtain ⟨pre, post, rfl⟩ := List.append_of_mem hx
  have hpre := h pre x post rfl (not_not.mp hp)
  have hpost : post.countP (fun y => decide (p y)) = 0 := List.countP_eq_zero.mpr fun y hy hpy => by
    obtain ⟨l₁, l₂, rfl⟩ := List.append_of_mem hy
    exact h (pre ++ x :: l₁) y l₂ (by simp) (of_decide_eq_true hpy) x (by simp) (not_not.mp hp)
  rw [List.countP_append, List.countP_cons, hpost,
    List.countP_eq_zero.mpr fun y hy hpy => hpre y hy (of_decide_eq_true hpy)]
  split <;> simp

end

/-! ## Handing the run over at an event -/

theorem pure_bind (a : α) (f : α → Prog E ε β) : (Pure.pure a >>= f : Prog E ε β) = f a :=
  funext fun env => funext fun h => pure_bind_run a f env h

theorem throw_bind (e : GoError) (f : α → Prog E ε β) : (throw e >>= f : Prog E ε β) = throw e := rfl

theorem bind_assoc (m : Prog E ε α) (f : α → Prog E ε β) (g : β → Prog E ε σ) :
    (m >>= f) >>= g = m >>= fun a => f a >>= g := by
  funext env h
  simp only [bind_run]
  rcases m env h with ⟨a | e | _, t⟩ <;> dsimp only
  rcases f a env (h ++ t) with ⟨b | e | _, t'⟩ <;> simp

/-- At every event `p` selects, `m` hands its run over to a program `K` admits: the run returns
what that program returns, and records after the event what it records, run from the history up
to the event. `K` sees the environment and the history before the event, where what the run
settled earlier lies; a `K` that fixes the program without the event's answer says the answer
changes nothing after it but the history. -/
def HandsOver (p : ε → Prop) (K : E → List ε → ε → Prog E ε α → Prop) (m : Prog E ε α) : Prop :=
  ∀ env h pre x post, (m env h).2 = pre ++ x :: post → p x →
    ∃ k, K env (h ++ pre) x k ∧ (m env h).1 = (k env (h ++ pre ++ [x])).1 ∧
      post = (k env (h ++ pre ++ [x])).2

section
variable {p : ε → Prop} {K K' : E → List ε → ε → Prog E ε α → Prop} {m : Prog E ε α}

theorem HandsOver.mono (hm : HandsOver p K m) (hK : ∀ env hist x k, K env hist x k → K' env hist x k) :
    HandsOver p K' m := fun env h pre x post ht hx =>
  let ⟨k, hk, hr⟩ := hm env h pre x post ht hx
  ⟨k, hK _ _ _ _ hk, hr⟩

theorem HandsOver.of_emits (hm : Emits (fun x => ¬p x) m) : HandsOver p K m :=
  fun env h _ x _ ht hx => absurd hx (hm env h x (ht ▸ List.mem_append_right _ (List.mem_cons_self _ _)))

theorem HandsOver.ite {c : Prop} [Decidable c] {m₁ m₂ : Prog E ε α} (h₁ : c → HandsOver p K m₁)
    (h₂ : ¬c → HandsOver p K m₂) : HandsOver p K (if c then m₁ else m₂) := by
  split
  exacts [h₁ ‹_›, h₂ ‹_›]

/-- Where `m` hands over, `m >>= f` hands over to the same program followed by `f`, when `f`
records no event `p` selects. -/
theorem HandsOver.bind_left (hm : HandsOver p K m) (hf : ∀ a, Emits (fun x => ¬p x) (f a)) :
    HandsOver p (fun env hist x k => ∃ k', K env hist x k' ∧ k = k' >>= f) (m >>= f) := by
  intro env h pre x post ht hx
  have hfx : ∀ a h', ∀ c, (f a env h').2 ≠ c ++ x :: post := fun a h' c hc =>
    hf a env h' x (hc ▸ List.mem_append_right _ (List.mem_cons_self _ _)) hx
  rw [bind_run] at ht ⊢
  generalize hr : m env h = r at ht ⊢
  rcases r with ⟨a | e | _, t⟩ <;> dsimp only at ht ⊢
  · obtain ⟨c, rfl, hc⟩ : ∃ c, t = pre ++ x :: c ∧ post = c ++ (f a env (h ++ t)).2 := by
      rcases List.append_eq_append_iff.mp ht with ⟨c, -, hc⟩ | ⟨c, rfl, hc⟩
      · exact absurd hc (hfx a _ c)
      · rcases c with _ | ⟨y, c⟩
        · exact absurd (by simpa using hc.symm) (hfx a _ [])
        · obtain ⟨rfl, rfl⟩ := List.cons.inj hc
          exact ⟨c, rfl, rfl⟩
    obtain ⟨k', hk', h₁, h₂⟩ := hm env h pre x c (by rw [hr]) hx
    have hk : k' env (h ++ pre ++ [x]) = (.ok a, c) := by
      rw [hr] at h₁; exact Prod.ext h₁.symm h₂.symm
    refine ⟨k' >>= f, ⟨k', hk', rfl⟩, ?_, ?_⟩ <;> simp only [bind_run, hk] <;> simp [hc]
  all_goals
    obtain ⟨k', hk', h₁, h₂⟩ := hm env h pre x post (by rw [hr]; exact ht) hx
    rw [hr] at h₁
    have hk : k' env (h ++ pre ++ [x]) = (_, post) := Prod.ext h₁.symm h₂.symm
    exact ⟨k' >>= f, ⟨k', hk', rfl⟩, by simp only [bind_run, hk], by simp only [bind_run, hk]⟩

/-- Where each `f a` hands over, `m >>= f` hands over alike, when `m` records no event `p`
selects: `K a` for a value `a` that `m` returned from a history before the event. -/
theorem HandsOver.bind_right {K : α → E → List ε → ε → Prog E ε β → Prop} (hm : Emits (fun x => ¬p x) m)
    (hf : ∀ a, HandsOver p (K a) (f a)) :
    HandsOver p (fun env hist x k => ∃ a h₀ t, m env h₀ = (.ok a, t) ∧ h₀ ++ t <+: hist ∧ K a env hist x k)
      (m >>= f) := by
  intro env h pre x post ht hx
  have hmx : ∀ c, (m env h).2 ≠ pre ++ x :: c := fun c hc =>
    hm env h x (hc ▸ List.mem_append_right _ (List.mem_cons_self _ _)) hx
  rw [bind_run] at ht ⊢
  generalize hr : m env h = r at ht hmx ⊢
  rcases r with ⟨a | e | _, t⟩ <;> dsimp only at ht hmx ⊢
  · obtain ⟨c, rfl, hc⟩ : ∃ c, pre = t ++ c ∧ (f a env (h ++ t)).2 = c ++ x :: post := by
      rcases List.append_eq_append_iff.mp ht with ⟨c, hp, hc⟩ | ⟨c, rfl, hc⟩
      · exact ⟨c, hp, hc⟩
      · rcases c with _ | ⟨y, c⟩
        · exact ⟨[], by simp, by simpa using hc.symm⟩
        · obtain ⟨rfl, rfl⟩ := List.cons.inj hc
          exact absurd rfl (hmx c)
    obtain ⟨k, hk, h₁, h₂⟩ := hf a env (h ++ t) c x post hc hx
    exact ⟨k, ⟨a, h, t, hr, ⟨c, by simp⟩, by simpa using hk⟩, by simpa using h₁, by simpa using h₂⟩
  all_goals exact absurd ht (hmx post)

/-- `bind_right` for a `K` that does not depend on the value `m` returned, but only needs what
`m` shows of it. -/
theorem HandsOver.bind_of_returns {V : α → Prop} {K : E → List ε → ε → Prog E ε β → Prop}
    (hm : Emits (fun x => ¬p x) m) (hv : Returns (fun a _ => V a) m) (hf : ∀ a, V a → HandsOver p K (f a)) :
    HandsOver p K (m >>= f) := by
  refine (HandsOver.bind_right (K := fun a env hist x k => V a → K env hist x k) hm fun a => ?_).mono
    fun env _ _ _ ⟨a, h₀, t, hr, _, hk⟩ => hk (hv env h₀ a (by rw [hr]))
  by_cases ha : V a
  · exact (hf a ha).mono fun _ _ _ _ hk _ => hk
  · exact fun env h _ _ post _ _ => ⟨fun _ _ => ((f a env h).1, post), fun ha' => absurd ha' ha, rfl, rfl⟩

theorem HandsOver.bind_after {K : E → List ε → ε → Prog E ε β → Prop} (hm : Emits (fun x => ¬p x) m)
    (hf : ∀ a, HandsOver p K (f a)) : HandsOver p K (m >>= f) :=
  HandsOver.bind_of_returns hm Returns.any fun a _ => hf a

/-- A run that records one event and goes on as `k` hands over to `k` at that event. -/
theorem HandsOver.of_cons_run {x₀ : E → List ε → ε} {k : Prog E ε α} (hk : Emits (fun x => ¬p x) k)
    (hm : ∀ env h, m env h = ((k env (h ++ [x₀ env h])).1, x₀ env h :: (k env (h ++ [x₀ env h])).2)) :
    HandsOver p (fun env hist x k' => x = x₀ env hist ∧ k' = k) m := by
  intro env h pre x post ht hx
  rw [hm] at ht ⊢
  rcases pre with _ | ⟨y, pre⟩
  · obtain ⟨rfl, rfl⟩ := List.cons.inj ht
    exact ⟨k, ⟨by simp, rfl⟩, by simp, by simp⟩
  · obtain ⟨-, ht⟩ := List.cons.inj ht
    exact absurd hx (hk env (h ++ [x₀ env h]) x (by simp [ht]))

/-- A call whose answer is dropped hands the run over to what follows it, whatever it answered. -/
theorem HandsOver.discard_query {γ : Type} {get : E → List ε → Except GoError γ}
    {record : Except GoError γ → ε} {f : Unit → Prog E ε β} (hf : Emits (fun x => ¬p x) (f ())) :
    HandsOver p (fun env hist x k => x = record (get env hist) ∧ k = f ()) (discard (query get record) >>= f) :=
  HandsOver.of_cons_run hf (discard_query_bind_run get record f)

/-- An event hands the run over to what follows it. -/
theorem HandsOver.emit_bind {x₀ : ε} {f : Unit → Prog E ε β} (hf : Emits (fun x => ¬p x) (f ())) :
    HandsOver p (fun _ _ x k => x = x₀ ∧ k = f ()) (emit x₀ >>= f) :=
  HandsOver.of_cons_run hf (emit_bind_run x₀ f)

end

/-! ## What a program reports -/

/-- The events `pick` selects from `m`'s trace are a prefix of `L`, and all of `L` when `m`
returns. -/
def Reports {S : Type} (pick : ε → Option S) (L : List S) (m : Prog E ε α) : Prop :=
  Sat m fun t o => t.filterMap pick <+: L ∧ ∀ a, o = .ok a → t.filterMap pick = L

variable {S : Type} {pick : ε → Option S} {A B : List S}

/-- `Reports.bind` where what follows `m` reports `B` only after the values `m` returns. -/
theorem Reports.bind_of_returns {V : α → Prop} (hm : Reports pick A m) (hv : Returns (fun a _ => V a) m)
    (hf : ∀ a, V a → Reports pick B (f a)) : Reports pick (A ++ B) (m >>= f) := by
  intro env h
  have hp := hm env h
  have hva := hv env h
  rw [bind_run]
  rcases hr : m env h with ⟨a | e | _, t⟩ <;> rw [hr] at hp hva <;> dsimp only
  · have hq := hf a (hva a rfl) env (h ++ t)
    rcases hr' : f a env (h ++ t) with ⟨b | e | _, t'⟩ <;> rw [hr'] at hq <;>
      simp only [List.filterMap_append, hp.2 a rfl, List.prefix_append_right_inj]
    · exact ⟨hq.1, fun _ _ => by simp [hq.2 b rfl]⟩
    all_goals exact ⟨hq.1, fun _ h' => by cases h'⟩
  all_goals exact ⟨hp.1.trans (List.prefix_append _ _), fun _ h' => by cases h'⟩

theorem Reports.bind (hm : Reports pick A m) (hf : ∀ a, Reports pick B (f a)) :
    Reports pick (A ++ B) (m >>= f) :=
  hm.bind_of_returns Returns.any fun a _ => hf a

theorem Reports.ite {L : List S} {c : Prop} [Decidable c] {m₁ m₂ : Prog E ε α}
    (h₁ : c → Reports pick L m₁) (h₂ : ¬c → Reports pick L m₂) : Reports pick L (if c then m₁ else m₂) := by
  split
  exacts [h₁ ‹_›, h₂ ‹_›]

theorem Reports.of_emits (hm : Emits (fun x => pick x = none) m) : Reports pick [] m :=
  Sat.mono hm fun t _ h => by
    have : t.filterMap pick = [] := List.filterMap_eq_nil_iff.mpr h
    simp [this]

theorem Reports.congr {L L' : List S} (hm : Reports pick L m) (hL : L = L') : Reports pick L' m :=
  hL ▸ hm

end Prog

end AssistedInstaller
