/-!
# Outcomes of computations

Rules, scans and statements are all computations that change a state and may
fail. A sequence of two is decided by the outcome of the first.

`Leaves` says what holds of the outcome of one computation, by whether it succeeded.
`Agree` compares the outcomes of two computations, which may run on states of
different kinds: both succeed or both fail, and what they leave is related.
-/

namespace LineBasic

variable {ε σ α β : Type} {first : EStateM ε σ α} {next : α → EStateM ε σ β}

theorem bind_of_ok {before after : σ} {value : α} (ran : first before = .ok value after) :
    (first >>= next) before = next value after := by
  simp only [bind, EStateM.bind, ran]

theorem bind_of_error {before after : σ} {failure : ε}
    (failed : first before = .error failure after) :
    (first >>= next) before = .error failure after := by
  simp only [bind, EStateM.bind, failed]

/-- A sequence succeeds only if both parts do. -/
theorem exists_of_bind_ok {before after : σ} {result : β}
    (ran : (first >>= next) before = .ok result after) :
    ∃ value between, first before = .ok value between ∧ next value between = .ok result after := by
  cases outcome : first before with
  | ok value between =>
    rw [bind_of_ok outcome] at ran
    exact ⟨value, between, rfl, ran⟩
  | error failure between => simp [bind_of_error outcome] at ran

/-- A sequence fails if its first part does, or else its second. -/
theorem cases_of_bind_error {before after : σ} {failure : ε}
    (failed : (first >>= next) before = .error failure after) :
    first before = .error failure after ∨
      ∃ value between, first before = .ok value between ∧
        next value between = .error failure after := by
  cases outcome : first before with
  | ok value between =>
    rw [bind_of_ok outcome] at failed
    exact .inr ⟨value, between, rfl, failed⟩
  | error other between =>
    rw [bind_of_error outcome] at failed
    cases failed
    exact .inl rfl

/-- Sequences that start the same and go on the same are the same. -/
theorem bind_congr_of_ok {other : EStateM ε σ α} {further : α → EStateM ε σ β} {before : σ}
    (same : first before = other before)
    (goes : ∀ value between, other before = .ok value between →
      next value between = further value between) :
    (first >>= next) before = (other >>= further) before := by
  cases ran : other before with
  | ok value between => rw [bind_of_ok (same.trans ran), bind_of_ok ran, goes value between ran]
  | error failure between => rw [bind_of_error (same.trans ran), bind_of_error ran]

/-- The state that a computation leaves, whether it succeeds or fails. -/
def finalState : EStateM.Result ε σ α → σ
  | .ok _ after => after
  | .error _ after => after

/-- Why a computation failed, if it did. -/
def failure? : EStateM.Result ε σ α → Option ε
  | .ok _ _ => none
  | .error failure _ => some failure

/-- What a computation comes to, apart from the state that it leaves. -/
def ending : EStateM.Result ε σ α → Except ε α
  | .ok value _ => .ok value
  | .error failure _ => .error failure

/-- Whether a computation succeeded with an outcome that passes a test. -/
def succeedsWith (test : α → σ → Bool) : EStateM.Result ε σ α → Bool
  | .ok value after => test value after
  | .error _ _ => false

theorem exists_of_succeedsWith {test : α → σ → Bool} {result : EStateM.Result ε σ α}
    (succeeds : succeedsWith test result = true) :
    ∃ value after, result = .ok value after ∧ test value after = true := by
  cases result with
  | ok value after => exact ⟨value, after, rfl, succeeds⟩
  | error => cases succeeds

/-- Whether a computation failed with an outcome that passes a test. -/
def failsWith (test : ε → σ → Bool) : EStateM.Result ε σ α → Bool
  | .ok _ _ => false
  | .error failure after => test failure after

theorem exists_of_failsWith {test : ε → σ → Bool} {result : EStateM.Result ε σ α}
    (fails : failsWith test result = true) :
    ∃ failure after, result = .error failure after ∧ test failure after = true := by
  cases result with
  | ok => cases fails
  | error failure after => exact ⟨failure, after, rfl, fails⟩

/-! ### One computation -/

inductive Leaves {ε σ α : Type} (ok : α → σ → Prop) (failed : ε → σ → Prop) :
    EStateM.Result ε σ α → Prop
  | ok {value : α} {after : σ} (holds : ok value after) : Leaves ok failed (.ok value after)
  | error {failure : ε} {after : σ} (holds : failed failure after) :
      Leaves ok failed (.error failure after)

namespace Leaves

variable {ok : α → σ → Prop} {further : β → σ → Prop} {failed : ε → σ → Prop}

theorem of_ok {result : EStateM.Result ε σ α} {value : α} {after : σ}
    (leaves : Leaves ok failed result) (ran : result = .ok value after) : ok value after := by
  subst ran
  cases leaves with
  | ok holds => exact holds

theorem of_error {result : EStateM.Result ε σ α} {failure : ε} {after : σ}
    (leaves : Leaves ok failed result) (ran : result = .error failure after) :
    failed failure after := by
  subst ran
  cases leaves with
  | error holds => exact holds

theorem imp {other : α → σ → Prop} {alsoFailed : ε → σ → Prop} {result : EStateM.Result ε σ α}
    (leaves : Leaves ok failed result) (weaker : ∀ value after, ok value after → other value after)
    (weakerFailed : ∀ failure after, failed failure after → alsoFailed failure after) :
    Leaves other alsoFailed result := by
  cases leaves with
  | ok holds => exact .ok (weaker _ _ holds)
  | error holds => exact .error (weakerFailed _ _ holds)

/-- What a computation leaves whether it succeeds or fails. -/
theorem iff_finalState {holds : σ → Prop} {result : EStateM.Result ε σ α} :
    Leaves (fun _ => holds) (fun _ => holds) result ↔ holds (finalState result) := by
  constructor
  · intro leaves
    cases leaves with
    | ok holds | error holds => exact holds
  · intro holds
    cases result with
    | ok => exact .ok holds
    | error => exact .error holds

/-- A sequence leaves what its second part leaves, or its first part if that fails. -/
theorem bind {before : σ} (leaves : Leaves ok failed (first before))
    (goes : ∀ value after, ok value after → Leaves further failed (next value after)) :
    Leaves further failed ((first >>= next) before) := by
  cases ran : first before with
  | ok value after =>
    rw [bind_of_ok ran]
    exact goes value after (leaves.of_ok ran)
  | error failure after =>
    rw [bind_of_error ran]
    exact .error (leaves.of_error ran)

end Leaves

/-! ### Two computations side by side -/

inductive Agree {ε ε' σ σ' α α' : Type} (ok : α → σ → α' → σ' → Prop)
    (failed : ε → σ → ε' → σ' → Prop) :
    EStateM.Result ε σ α → EStateM.Result ε' σ' α' → Prop
  | ok {value : α} {after : σ} {value' : α'} {after' : σ'} (holds : ok value after value' after') :
      Agree ok failed (.ok value after) (.ok value' after')
  | error {failure : ε} {after : σ} {failure' : ε'} {after' : σ'}
      (holds : failed failure after failure' after') :
      Agree ok failed (.error failure after) (.error failure' after')

namespace Agree

variable {ε ε' σ σ' α α' β β' : Type} {ok : α → σ → α' → σ' → Prop}
  {further : β → σ → β' → σ' → Prop} {failed : ε → σ → ε' → σ' → Prop}

theorem refl (result : EStateM.Result ε σ α) :
    Agree (fun value after value' after' => value = value' ∧ after = after')
      (fun failure after failure' after' => failure = failure' ∧ after = after') result result := by
  cases result with
  | ok => exact .ok ⟨rfl, rfl⟩
  | error => exact .error ⟨rfl, rfl⟩

theorem imp {other : α → σ → α' → σ' → Prop} {alsoFailed : ε → σ → ε' → σ' → Prop}
    {result : EStateM.Result ε σ α} {result' : EStateM.Result ε' σ' α'}
    (agree : Agree ok failed result result')
    (weaker : ∀ value after value' after', ok value after value' after' →
      other value after value' after')
    (weakerFailed : ∀ failure after failure' after', failed failure after failure' after' →
      alsoFailed failure after failure' after') : Agree other alsoFailed result result' := by
  cases agree with
  | ok holds => exact .ok (weaker _ _ _ _ holds)
  | error holds => exact .error (weakerFailed _ _ _ _ holds)

/-- Sequences agree if their first parts do, and their second parts do whenever the
first have agreed on a value. -/
theorem bind {first : EStateM ε σ α} {first' : EStateM ε' σ' α'} {next : α → EStateM ε σ β}
    {next' : α' → EStateM ε' σ' β'} {before : σ} {before' : σ'}
    (agree : Agree ok failed (first before) (first' before'))
    (goes : ∀ value after value' after', ok value after value' after' →
      Agree further failed (next value after) (next' value' after')) :
    Agree further failed ((first >>= next) before) ((first' >>= next') before') := by
  cases ran : first before with
  | ok value after =>
    cases ran' : first' before' with
    | ok value' after' =>
      rw [ran, ran'] at agree
      rw [bind_of_ok ran, bind_of_ok ran']
      cases agree with
      | ok holds => exact goes _ _ _ _ holds
    | error failure' after' => rw [ran, ran'] at agree; cases agree
  | error failure after =>
    cases ran' : first' before' with
    | ok value' after' => rw [ran, ran'] at agree; cases agree
    | error failure' after' =>
      rw [ran, ran'] at agree
      rw [bind_of_error ran, bind_of_error ran']
      cases agree with
      | error holds => exact .error holds

end Agree

end LineBasic
