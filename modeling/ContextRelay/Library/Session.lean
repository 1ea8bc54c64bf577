import ContextRelay.Library.Outcome

/-! Sessions: computations that run several transactions against one store. A transaction
that fails changes nothing, but what an earlier one wrote stays when a later one fails,
so a session returns the store it got to also when it fails. -/
namespace ContextRelay.Library

variable {σ ε δ α β : Type}

/-- A computation over a store that keeps its finished writes when it fails. -/
def Session (σ ε α : Type) := σ → Except ε α × σ

namespace Session

instance : Monad (Session σ ε) where
  pure value := fun state => (.ok value, state)
  bind first next := fun state =>
    match first state with
    | (.ok value, middle) => next value middle
    | (.error failure, middle) => (.error failure, middle)

def fail (failure : ε) : Session σ ε α := fun state => (.error failure, state)

/-- A check or a value that needs no store. -/
def lift (result : Except ε α) : Session σ ε α := fun state => (result, state)

/-- A query. -/
def query (read : σ → Except δ α) (rename : δ → ε) : Session σ ε α :=
  fun state => (renameFailure (read state) rename, state)

/-- A transaction: all of its writes or none. -/
def transact (write : σ → Except δ σ) (rename : δ → ε) : Session σ ε Unit := fun state =>
  match write state with
  | .ok next => (.ok (), next)
  | .error failure => (.error (rename failure), state)

/-- A transaction that also returns a value. -/
def perform (write : σ → Except δ (α × σ)) (rename : δ → ε) : Session σ ε α := fun state =>
  match write state with
  | .ok (value, next) => (.ok value, next)
  | .error failure => (.error (rename failure), state)

/-- A look at the store that cannot fail. -/
def look (read : σ → α) : Session σ ε α := fun state => (.ok (read state), state)

/-! ## Taking a session apart -/

section

variable {state final : σ} {result : Except ε α} {rename : δ → ε}

theorem bind_eq {next : α → Session σ ε β} {result : Except ε β} :
    (first >>= next) state = (result, final) ↔
      (∃ value middle, first state = (.ok value, middle) ∧ next value middle = (result, final)) ∨
        ∃ failure, first state = (.error failure, final) ∧ result = .error failure := by
  change (match first state with
    | (.ok value, middle) => next value middle
    | (.error failure, middle) => (.error failure, middle)) = (result, final) ↔ _
  rcases first state with ⟨outcome | outcome, middle⟩
  · simp [and_comm, eq_comm]
  · simp

theorem bind_eq_ok {next : α → Session σ ε β} {value : β} :
    (first >>= next) state = (.ok value, final) ↔
      ∃ found middle, first state = (.ok found, middle) ∧ next found middle = (.ok value, final) := by
  rw [bind_eq]
  simp

theorem pure_eq :
    (pure value : Session σ ε α) state = (result, final) ↔ result = .ok value ∧ state = final := by
  change (Except.ok value, state) = (result, final) ↔ _
  simp [eq_comm]

theorem fail_eq {failure : ε} :
    (fail failure : Session σ ε α) state = (result, final) ↔
      result = .error failure ∧ state = final := by
  simp [fail, eq_comm]

theorem lift_eq :
    (lift outcome : Session σ ε α) state = (result, final) ↔ outcome = result ∧ state = final := by
  simp [lift]

theorem lift_ok_bind (value : α) (next : α → Session σ ε β) :
    (lift (.ok value) >>= next : Session σ ε β) = next value :=
  rfl

theorem query_eq_ok {read : σ → Except δ α} :
    query read rename state = (.ok value, final) ↔ read state = .ok value ∧ state = final := by
  cases found : read state <;> simp [query, found, renameFailure, eq_comm]

theorem query_eq_error {read : σ → Except δ α} {failure : ε} :
    query read rename state = (.error failure, final) ↔
      (∃ inner, read state = .error inner ∧ rename inner = failure) ∧ state = final := by
  cases found : read state <;> simp [query, found, renameFailure, eq_comm]

theorem transact_eq_ok :
    transact write rename state = (.ok done, final) ↔ write state = .ok final := by
  cases written : write state <;> simp [transact, written]

theorem transact_eq_error {failure : ε} :
    transact write rename state = (.error failure, final) ↔
      (∃ inner, write state = .error inner ∧ rename inner = failure) ∧ state = final := by
  cases written : write state <;> simp [transact, written, eq_comm]

theorem perform_eq_ok :
    perform write rename state = (.ok value, final) ↔ write state = .ok (value, final) := by
  cases written : write state <;> simp [perform, written, Prod.ext_iff]

theorem perform_eq_error {failure : ε} :
    perform write rename state = (.error failure, final) ↔
      (∃ inner, write state = .error inner ∧ rename inner = failure) ∧ state = final := by
  cases written : write state <;> simp [perform, written, eq_comm]

theorem look_eq {read : σ → α} :
    (look read : Session σ ε α) state = (result, final) ↔
      result = .ok (read state) ∧ state = final := by
  simp [look, eq_comm]

end

/-! ## What every run of a session does to the store -/

/-- However a session ends, it leads from a store only to related ones. -/
def Within (related : σ → σ → Prop) (session : Session σ ε α) : Prop :=
  ∀ state result final, session state = (result, final) → related state final

section
variable {related : σ → σ → Prop}

theorem Within.bind {next : α → Session σ ε β}
    (trans : ∀ a b c, related a b → related b c → related a c) (before : Within related first)
    (after : ∀ value, Within related (next value)) : Within related (first >>= next) := by
  intro state result final ran
  rcases bind_eq.mp ran with ⟨value, middle, started, finished⟩ | ⟨failure, failed, _⟩
  · exact trans _ _ _ (before _ _ _ started) (after value _ _ _ finished)
  · exact before _ _ _ failed

theorem Within.pure (refl : ∀ a, related a a) (value : α) :
    Within related (pure value : Session σ ε α) := by
  intro state result final ran
  exact (pure_eq.mp ran).2 ▸ refl _

theorem Within.fail (refl : ∀ a, related a a) (failure : ε) :
    Within related (fail failure : Session σ ε α) := by
  intro state result final ran
  exact (fail_eq.mp ran).2 ▸ refl _

theorem Within.lift (refl : ∀ a, related a a) (outcome : Except ε α) :
    Within related (lift outcome : Session σ ε α) := by
  intro state result final ran
  exact (lift_eq.mp ran).2 ▸ refl _

theorem Within.look (refl : ∀ a, related a a) (read : σ → α) :
    Within related (look read : Session σ ε α) := by
  intro state result final ran
  exact (look_eq.mp ran).2 ▸ refl _

theorem Within.query (refl : ∀ a, related a a) (read : σ → Except δ α) (rename : δ → ε) :
    Within related (query read rename) := by
  intro state result final ran
  cases result with
  | ok value => exact (query_eq_ok.mp ran).2 ▸ refl _
  | error failure => exact (query_eq_error.mp ran).2 ▸ refl _

theorem Within.perform (refl : ∀ a, related a a) {write : σ → Except δ (α × σ)} (rename : δ → ε)
    (written : ∀ state value final, write state = .ok (value, final) → related state final) :
    Within related (perform write rename) := by
  intro state result final ran
  cases result with
  | ok value => exact written _ _ _ (perform_eq_ok.mp ran)
  | error failure => exact (perform_eq_error.mp ran).2 ▸ refl _

end

/-! ## What a session returns -/

/-- Whatever the store, a value that the session returns meets the condition. -/
def Returns (session : Session σ ε α) (condition : α → Prop) : Prop :=
  ∀ state value final, session state = (.ok value, final) → condition value

section
variable {condition : α → Prop}

theorem Returns.any {session : Session σ ε α} : session.Returns fun _ => True :=
  fun _ _ _ _ => trivial

theorem Returns.mono {session : Session σ ε α} {weaker : α → Prop} (returns : session.Returns condition)
    (implies : ∀ value, condition value → weaker value) : session.Returns weaker :=
  fun state value final ran => implies value (returns state value final ran)

theorem Returns.bind {next : α → Session σ ε β} {last : β → Prop}
    (before : first.Returns condition)
    (after : ∀ value, condition value → (next value).Returns last) :
    (first >>= next).Returns last := by
  intro state value final ran
  obtain ⟨found, middle, started, finished⟩ := bind_eq_ok.mp ran
  exact after found (before _ _ _ started) _ _ _ finished

theorem Returns.pure (meets : condition value) :
    (pure value : Session σ ε α).Returns condition := by
  intro state result final ran
  exact Except.ok.inj (pure_eq.mp ran).1 ▸ meets

theorem Returns.fail {failure : ε} : (fail failure : Session σ ε α).Returns condition := by
  intro state result final ran
  cases (fail_eq.mp ran).1

theorem Returns.look {read : σ → α} (meets : ∀ state, condition (read state)) :
    (look read : Session σ ε α).Returns condition := by
  intro state result final ran
  exact Except.ok.inj (look_eq.mp ran).1 ▸ meets state

end

end Session
end ContextRelay.Library
