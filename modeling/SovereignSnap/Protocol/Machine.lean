import SovereignSnap.Script

/-! # Call protocols and the scripts that follow them

A protocol is a machine over collaborator calls; a script that follows it makes
the protocol's calls in every run, so the protocol's invariants hold of the
script.
-/

namespace SovereignSnap

open Js Script

abbrev Calls := List (Call × Except JsValue JsValue)

def Event.calls : List Event → Calls
  | [] => []
  | .console _ _ :: es => Event.calls es
  | .call c o :: es => (c, o) :: Event.calls es

@[simp] theorem Event.calls_append (es es' : List Event) :
    Event.calls (es ++ es') = Event.calls es ++ Event.calls es' := by
  induction es with
  | nil => rfl
  | cons e es ih => cases e <;> simp [Event.calls, ih]

theorem Event.mem_calls {c : Call} {o : Except JsValue JsValue} {es : List Event} :
    (c, o) ∈ Event.calls es ↔ .call c o ∈ es := by
  induction es with
  | nil => simp [Event.calls]
  | cons e es ih => cases e <;> simp [Event.calls, ih]

theorem calls_ofAnswers {α : Type} (answer : Call → Except JsValue JsValue) (s : Script α)
    (past : List Event) : ∀ x ∈ Event.calls (s.run (Env.ofAnswers answer) past).events, x.2 = answer x.1 := by
  induction s generalizing past with
  | done r => simp [Event.calls]
  | console l m next ih => simpa [Event.calls] using ih (past ++ [.console l m])
  | invoke c k ih =>
      simp only [run_invoke, Event.calls, List.mem_cons, forall_eq_or_imp]
      exact ⟨rfl, ih _ _⟩

/-- The state a step of the snap's own code leads to: the continuation on its
value, or `fallback` (the `catch` block) when it throws. -/
def proceed {σ β : Type} (r : Except JsValue β) (fallback : σ) (f : β → σ) : σ :=
  match r with
  | .ok b => f b
  | .error _ => fallback

@[simp] theorem proceed_ok {σ β : Type} (b : β) (fallback : σ) (f : β → σ) :
    proceed (.ok b) fallback f = f b := rfl

@[simp] theorem proceed_error {σ β : Type} (e : JsValue) (fallback : σ) (f : β → σ) :
    proceed (.error e : Except JsValue β) fallback f = fallback := rfl

theorem apply_proceed {σ τ β : Type} (g : σ → τ) (r : Except JsValue β) (fallback : σ) (f : β → σ) :
    g (proceed r fallback f) = proceed r (g fallback) fun b => g (f b) := by
  cases r <;> rfl

@[simp] theorem proceed_const {σ β : Type} (r : Except JsValue β) (x : σ) : proceed r x (fun _ => x) = x := by
  cases r <;> rfl

structure Protocol (σ α : Type) where
  expect : σ → Option Call
  next : σ → Except JsValue JsValue → σ
  result : σ → Except JsValue α → Prop

namespace Protocol

variable {σ α β : Type} (p : Protocol σ α)

/-- The calls the protocol makes from `q` when they have the outcomes `os`, each
with the state it is made in. -/
def steps : σ → List (Except JsValue JsValue) → List (σ × Call × Except JsValue JsValue)
  | _, [] => []
  | q, o :: os => match p.expect q with
      | some c => (q, c, o) :: steps (p.next q o) os
      | none => []

def after : σ → List (Except JsValue JsValue) → σ
  | q, [] => q
  | q, o :: os => after (p.next q o) os

/-- A script's steps follow the protocol from `q`. -/
def Follows : σ → Script α → Prop
  | q, .done r => p.result q r
  | q, .console _ _ next => Follows q next
  | q, .invoke c k => p.expect q = some c ∧ ∀ o, Follows (p.next q o) (k o)

@[simp] theorem follows_done (q : σ) (r : Except JsValue α) :
    p.Follows q (.done r) ↔ p.result q r := Iff.rfl

@[simp] theorem follows_console (q : σ) (l : Level) (m : String) (next : Script α) :
    p.Follows q (.console l m next) ↔ p.Follows q next := Iff.rfl

@[simp] theorem follows_invoke (q : σ) (c : Call) (k : Except JsValue JsValue → Script α) :
    p.Follows q (.invoke c k) ↔ p.expect q = some c ∧ ∀ o, p.Follows (p.next q o) (k o) := Iff.rfl

theorem forall_except {ε γ : Type} (P : Except ε γ → Prop) :
    (∀ o, P o) ↔ (∀ e, P (.error e)) ∧ ∀ v, P (.ok v) :=
  ⟨fun h => ⟨fun _ => h _, fun _ => h _⟩, fun h o => by cases o <;> simp [h.1, h.2]⟩

@[simp] theorem follows_done_bind (q : σ) (r : Except JsValue β) (f : β → Script α) :
    p.Follows q ((done r).bind f) ↔ (∀ e, r = .error e → p.result q (.error e)) ∧
      ∀ b, r = .ok b → p.Follows q (f b) := by
  cases r <;> simp

@[simp] theorem follows_done_bind_tryCatch (q : σ) (r : Except JsValue β) (f : β → Script α)
    (h : JsValue → Script α) :
    p.Follows q (((done r).bind f).tryCatch h) ↔ (∀ e, r = .error e → p.Follows q (h e)) ∧
      ∀ b, r = .ok b → p.Follows q ((f b).tryCatch h) := by
  cases r <;> simp

/-- Every partial run of a script that follows the protocol makes the protocol's
calls for the outcomes it met, and what is left of the script follows the protocol
from the state those outcomes lead to. -/
theorem Follows.reaches {q : σ} {s s' : Script α} {es : List Event} (h : p.Follows q s)
    (hr : s.Reaches es s') :
    ∃ os, Event.calls es = (p.steps q os).map Prod.snd ∧ (p.steps q os).length = os.length ∧
      p.Follows (p.after q os) s' := by
  induction hr generalizing q with
  | refl => exact ⟨[], rfl, rfl, h⟩
  | console _ ih =>
      obtain ⟨os, hc, hl, hf⟩ := ih h
      exact ⟨os, by simpa [Event.calls] using hc, hl, hf⟩
  | @invoke c k o _ _ _ ih =>
      obtain ⟨hc, hk⟩ := h
      obtain ⟨os, hcs, hl, hf⟩ := ih (hk o)
      exact ⟨o :: os, by simp [Event.calls, steps, hc, hcs], by simp [steps, hc, hl], hf⟩

/-- Every run of a script that follows the protocol makes the protocol's calls for
the outcomes it met, and ends with a result the protocol allows there. -/
theorem Follows.run {q : σ} {s : Script α} (h : p.Follows q s) (env : Env) (past : List Event) :
    ∃ os, Event.calls (s.run env past).events = (p.steps q os).map Prod.snd ∧
      (p.steps q os).length = os.length ∧ p.result (p.after q os) (s.run env past).result :=
  Follows.reaches p h (reaches_run env s past)

section Invariant

variable (Inv : σ → Calls → Prop)
  (step : ∀ q pre c o, Inv q pre → p.expect q = some c → Inv (p.next q o) (pre ++ [(c, o)]))
include step

theorem steps_invariant {q : σ} {pre : Calls} (h : Inv q pre)
    (os : List (Except JsValue JsValue)) (i : Nat) (x : σ × Call × Except JsValue JsValue)
    (hx : (p.steps q os)[i]? = some x) :
    p.expect x.1 = some x.2.1 ∧ Inv x.1 (pre ++ ((p.steps q os).take i).map Prod.snd) := by
  induction os generalizing q pre i with
  | nil => simp [steps] at hx
  | cons o os ih =>
      cases hc : p.expect q with
      | none => simp [steps, hc] at hx
      | some c =>
          cases i with
          | zero =>
              simp only [steps, hc, List.getElem?_cons_zero, Option.some.injEq] at hx
              subst hx
              simpa using ⟨hc, h⟩
          | succ i =>
              simp only [steps, hc, List.getElem?_cons_succ] at hx
              simpa [steps, hc, List.append_assoc] using ih (step q pre c o h hc) i hx

theorem after_invariant {q : σ} {pre : Calls} (h : Inv q pre)
    (os : List (Except JsValue JsValue)) (hl : (p.steps q os).length = os.length) :
    Inv (p.after q os) (pre ++ (p.steps q os).map Prod.snd) := by
  induction os generalizing q pre with
  | nil => simpa [after, steps] using h
  | cons o os ih =>
      cases hc : p.expect q with
      | none => simp [steps, hc] at hl
      | some c =>
          simp only [steps, hc, List.length_cons, add_left_inj] at hl
          simpa [after, steps, hc, List.append_assoc] using ih (step q pre c o h hc) hl

/-- In every partial run of a script that follows the protocol, each call is made
in a state that expects it and whose invariant holds of the calls before it, and
the script continues, following the protocol, from a state whose invariant holds
of all its calls. -/
theorem Follows.reaches_invariant {q : σ} {s s' : Script α} {es : List Event} (h : p.Follows q s)
    (hr : s.Reaches es s') (h0 : Inv q []) :
    (∀ i x, (Event.calls es)[i]? = some x → ∃ q', p.expect q' = some x.1 ∧
      Inv q' ((Event.calls es).take i)) ∧
    ∃ q', Inv q' (Event.calls es) ∧ p.Follows q' s' := by
  obtain ⟨os, hc, hl, hf⟩ := Follows.reaches p h hr
  rw [hc]
  refine ⟨fun i x hx => ?_, p.after q os, by simpa using after_invariant p Inv step h0 os hl, hf⟩
  obtain ⟨y, hy, rfl⟩ := Option.map_eq_some'.1 (List.getElem?_map _ _ _ ▸ hx)
  obtain ⟨he, hi⟩ := steps_invariant p Inv step h0 os i y hy
  exact ⟨y.1, he, by simpa [List.map_take] using hi⟩

/-- In every run of a script that follows the protocol, each call is made in a
state that expects it and whose invariant holds of the calls before it, and the
run ends in a state whose invariant holds of all its calls and which allows its
result. -/
theorem Follows.run_invariant {q : σ} {s : Script α} (h : p.Follows q s) (h0 : Inv q [])
    (env : Env) (past : List Event) :
    (∀ i x, (Event.calls (s.run env past).events)[i]? = some x → ∃ q', p.expect q' = some x.1 ∧
      Inv q' ((Event.calls (s.run env past).events).take i)) ∧
    ∃ q', Inv q' (Event.calls (s.run env past).events) ∧ p.result q' (s.run env past).result :=
  Follows.reaches_invariant p Inv step h (reaches_run env s past) h0

end Invariant

section Trigger

variable (Later : σ → Prop) (T Q : Call → Prop) (closed : ∀ q o, Later q → Later (p.next q o))
  (entry : ∀ q c, p.expect q = some c → T c → Later q)
  (only : ∀ q c, Later q → p.expect q = some c → Q c)
include closed entry only

/-- When the states from the first call of a kind `T` on are closed under steps
and expect only calls of a kind `Q`, every call after a `T` call in a partial
run is a `Q` call. -/
theorem Follows.after_trigger {q : σ} {s s' : Script α} {es : List Event} (h : p.Follows q s)
    (hr : s.Reaches es s') (i : Nat) (x : Call × Except JsValue JsValue)
    (hx : (Event.calls es)[i]? = some x) (hy : ∃ y ∈ (Event.calls es).take i, T y.1) : Q x.1 := by
  have step : ∀ q pre c o, ((∃ y ∈ pre, T y.1) → Later q) → p.expect q = some c →
      (∃ y ∈ pre ++ [(c, o)], T y.1) → Later (p.next q o) := by
    rintro q pre c o hinv hc ⟨y, hy, hd⟩
    rcases List.mem_append.1 hy with hy | hy
    · exact closed q o (hinv ⟨y, hy, hd⟩)
    · obtain rfl := List.mem_singleton.1 hy
      exact closed q o (entry q _ hc hd)
  obtain ⟨hcalls, -⟩ := Follows.reaches_invariant p _ step h hr (by simp)
  obtain ⟨q', hq', hinv⟩ := hcalls i x hx
  exact only q' x.1 (hinv hy) hq'

end Trigger

end Protocol

end SovereignSnap
