import Walkthrough.Proofs.Page.Operation

/-!
A page does not look at the calls made on it nor at the log: with an earlier history in front of its
own it acts as without it. So its calls only grow, and what is logged has no influence on it.
-/
namespace Walkthrough
namespace Stage

/-- The page with earlier calls and log records in front of its own. -/
def after (calls : List PageCall) (log : List LogRecord) (s : Stage) : Stage :=
  { s with calls := calls ++ s.calls, log := log ++ s.log }

def muted (s : Stage) : Stage := { s with log := [] }

@[simp] theorem failures_after (calls : List PageCall) (log : List LogRecord) (s : Stage) :
    (s.after calls log).failures = s.failures := rfl

@[simp] theorem calls_tell (r : LogRecord) (s : Stage) : (s.tell r).calls = s.calls := rfl

@[simp] theorem muted_tell (r : LogRecord) (s : Stage) : (s.tell r).muted = s.muted := rfl

theorem tell_after (calls : List PageCall) (log : List LogRecord) (r : LogRecord) (s : Stage) :
    (s.after calls log).tell r = (s.tell r).after calls log := by
  simp [tell, after]

theorem after_muted (s : Stage) : s.muted.after [] s.log = s := by
  simp [after, muted]

theorem calls_eq_of_muted_eq {s t : Stage} (h : s.muted = t.muted) : s.calls = t.calls := by
  change s.muted.calls = t.muted.calls
  rw [h]

theorem clock_eq_of_muted_eq {s t : Stage} (h : s.muted = t.muted) : s.clock = t.clock := by
  change s.muted.clock = t.muted.clock
  rw [h]

theorem since_eq_of_muted_eq {s t : Stage} (h : s.muted = t.muted) (start : Float) :
    s.since start = t.since start := by
  simp only [since, clock_eq_of_muted_eq h]

/-- Two ends that differ in nothing but the log. -/
structure MutedEq {α : Type} (x y : α × Stage) : Prop where
  result : x.1 = y.1
  stage : x.2.muted = y.2.muted

end Stage

section
variable {ε α β : Type}

def mapStage (f : Stage → Stage) : EStateM.Result ε Stage α → EStateM.Result ε Stage α
  | .ok a s => .ok a (f s)
  | .error e s => .error e (f s)

def stageOf : EStateM.Result ε Stage α → Stage
  | .ok _ s => s
  | .error _ s => s

/-- What is done after something else begins where that has ended, unless it ended with an error. -/
theorem bind_cases (x : EStateM ε Stage α) (f : α → EStateM ε Stage β) (s : Stage) :
    (∃ a t, x s = .ok a t ∧ (x >>= f) s = f a t) ∨
      ∃ e t, x s = .error e t ∧ (x >>= f) s = .error e t := by
  change (∃ a t, x s = .ok a t ∧ EStateM.bind x f s = f a t) ∨
    ∃ e t, x s = .error e t ∧ EStateM.bind x f s = .error e t
  unfold EStateM.bind
  cases x s with
  | ok a t => exact .inl ⟨a, t, rfl, rfl⟩
  | error e t => exact .inr ⟨e, t, rfl, rfl⟩

theorem bind_of_ok {x : EStateM ε Stage α} {f : α → EStateM ε Stage β} {s t : Stage} {a : α}
    (h : x s = .ok a t) : (x >>= f) s = f a t := by
  change EStateM.bind x f s = _
  rw [EStateM.bind, h]

/-- What is done does not depend on the history of the page, and leaves it in its place. -/
def Oblivious (x : EStateM ε Stage α) : Prop :=
  ∀ calls log s, x (s.after calls log) = mapStage (Stage.after calls log) (x s)

namespace Oblivious

theorem pure (a : α) : Oblivious (Pure.pure a : EStateM ε Stage α) :=
  fun _ _ _ => rfl

theorem throw (e : ε) : Oblivious (MonadExcept.throw e : EStateM ε Stage α) :=
  fun _ _ _ => rfl

theorem update {f : Stage → Stage}
    (hf : ∀ calls log s, f (s.after calls log) = (f s).after calls log) :
    Oblivious (modify f : EStateM ε Stage PUnit) := by
  intro calls log s
  change EStateM.Result.ok _ (f (s.after calls log)) = .ok _ ((f s).after calls log)
  rw [hf]

theorem bind {x : EStateM ε Stage α} {f : α → EStateM ε Stage β} (hx : Oblivious x)
    (hf : ∀ a, Oblivious (f a)) : Oblivious (x >>= f) := by
  intro calls log s
  change EStateM.bind x f _ = mapStage _ (EStateM.bind x f s)
  simp only [EStateM.bind, hx calls log s]
  cases x s with
  | ok a s' => exact hf a calls log s'
  | error e s' => rfl

theorem tryCatch {x : EStateM ε Stage α} {f : ε → EStateM ε Stage α} (hx : Oblivious x)
    (hf : ∀ e, Oblivious (f e)) : Oblivious (EStateM.tryCatch x f) := by
  intro calls log s
  delta EStateM.tryCatch
  simp only [hx calls log s]
  cases x s with
  | ok a t => rfl
  | error e t => exact hf e calls log t

/-- The page may be read, as long as its history is not. -/
theorem get_bind {f : Stage → EStateM ε Stage α} (hf : ∀ s, Oblivious (f s))
    (hc : ∀ calls log s, f (s.after calls log) = f s) : Oblivious (get >>= f) := by
  intro calls log s
  change f (s.after calls log) (s.after calls log) = mapStage _ (f s s)
  rw [hc]
  exact hf s calls log s

theorem reads {f : Stage → α} (hf : ∀ calls log s, f (s.after calls log) = f s) :
    Oblivious (do return f (← get) : EStateM ε Stage α) :=
  get_bind (fun _ => pure _) fun calls log s => by rw [hf]

/-- Pages that differ in nothing but the log are left so, with the same end. -/
theorem muted_eq {x : EStateM ε Stage α} (hx : Oblivious x) {s t : Stage}
    (h : s.muted = t.muted) : mapStage Stage.muted (x s) = mapStage Stage.muted (x t) := by
  have key (u : Stage) : mapStage Stage.muted (x u) = mapStage Stage.muted (x u.muted) := by
    have hu := hx [] u.log u.muted
    rw [Stage.after_muted] at hu
    rw [hu]
    cases x u.muted <;> rfl
  rw [key s, key t, h]

end Oblivious
end

/-- A page whose operations do not look at what has been called and logged before. -/
structure Page where
  handle : PageHandle
  oblivious : ∀ {α : Type} (op : PageOp α), Oblivious (handle.call op)

end Walkthrough
