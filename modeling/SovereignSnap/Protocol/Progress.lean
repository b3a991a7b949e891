import SovereignSnap.Protocol.Interleaving

/-! # Every request finishes

A request that has had one turn more than the calls its method awaits is
finished, whatever the collaborators, the other requests and the schedule.
-/

namespace SovereignSnap

open Js JsValue Script Protocol

namespace Script

variable {α : Type}

/-- Every branch of the script makes at most `n` awaited calls. -/
def AwaitsAtMost : Nat → Script α → Prop
  | _, done _ => True
  | n, console _ _ next => AwaitsAtMost n next
  | n, invoke c k => (c.awaited → 0 < n) ∧ ∀ o, AwaitsAtMost (if c.awaited then n - 1 else n) (k o)

theorem AwaitsAtMost.mono {s : Script α} {n m : Nat} (h : s.AwaitsAtMost n) (hnm : n ≤ m) :
    s.AwaitsAtMost m := by
  induction s generalizing n m with
  | done r => trivial
  | console l m' next ih => exact ih h hnm
  | invoke c k ih =>
    refine ⟨fun ha => by have := h.1 ha; omega, fun o => ih o (h.2 o) ?_⟩
    split <;> omega

variable (env : Env)

theorem AwaitsAtMost.sync {s : Script α} {n : Nat} (h : s.AwaitsAtMost n) (past : List Event) :
    (s.sync env past).2.AwaitsAtMost n := by
  induction s generalizing past with
  | done r => trivial
  | console l m next ih => exact ih h _
  | invoke c k ih =>
    by_cases hc : c.awaited
    · simpa [Script.sync, hc] using h
    · simpa [Script.sync, hc] using ih _ (by simpa [hc] using h.2 (env past c)) _

theorem AwaitsAtMost.resume {s : Script α} {n : Nat} (h : s.AwaitsAtMost n) (past : List Event) :
    (s.resume env past).2.AwaitsAtMost n := by
  cases s with
  | done r => trivial
  | console l m next => exact AwaitsAtMost.sync env h _
  | invoke c k => exact AwaitsAtMost.sync env ((h.2 _).mono (by split <;> omega)) _

theorem AwaitsAtMost.resume_suspended {s : Script α} {n : Nat} (h : s.AwaitsAtMost (n + 1))
    (hs : s.suspended) (past : List Event) : (s.resume env past).2.AwaitsAtMost n := by
  cases s with
  | done r => trivial
  | console l m next => simp [suspended] at hs
  | invoke c k =>
    simp only [suspended] at hs
    exact AwaitsAtMost.sync env (by simpa [hs] using h.2 (env past c)) _

theorem eq_done_of_awaitsAtMost_zero {s : Script α} (h : s.AwaitsAtMost 0) (hs : s.suspended) :
    ∃ r, s = done r := by
  cases s with
  | done r => exact ⟨r, rfl⟩
  | console l m next => simp [suspended] at hs
  | invoke c k => exact absurd (h.1 hs) (Nat.lt_irrefl 0)

/-- The request is finished after `n` more turns, whatever happens between them. -/
def FinishesWithin : Nat → Script α → Prop
  | 0, s => ∃ r, s = done r
  | n + 1, s => ∀ past, FinishesWithin n (s.resume env past).2

theorem FinishesWithin.resume {s : Script α} {n : Nat} (h : s.FinishesWithin env n) (past : List Event) :
    (s.resume env past).2.FinishesWithin env (n - 1) := by
  cases n with
  | zero =>
    obtain ⟨r, rfl⟩ := h
    exact ⟨r, rfl⟩
  | succ n => exact h past

theorem finishesWithin_of_suspended {s : Script α} {n : Nat} (h : s.AwaitsAtMost n) (hs : s.suspended) :
    s.FinishesWithin env n := by
  induction n generalizing s with
  | zero => exact eq_done_of_awaitsAtMost_zero h hs
  | succ n ih => exact fun past => ih (h.resume_suspended env hs past) (resume_suspended env s past)

theorem finishesWithin_of_awaitsAtMost {s : Script α} {n : Nat} (h : s.AwaitsAtMost n) :
    s.FinishesWithin env (n + 1) :=
  fun past => finishesWithin_of_suspended env (h.resume env past) (resume_suspended env s past)

end Script

/-! ## The awaits of each protocol -/

namespace Protocol

variable {σ α : Type} (p : Protocol σ α) (rank : σ → Nat)
  (hrank : ∀ q c o, p.expect q = some c → rank (p.next q o) + (if c.awaited then 1 else 0) ≤ rank q)
include hrank

/-- When every awaited call lowers a rank of the protocol's states and no other
call raises it, a script that follows the protocol awaits at most the rank of
its state. -/
theorem Follows.awaitsAtMost {q : σ} {s : Script α} (h : p.Follows q s) : s.AwaitsAtMost (rank q) := by
  induction s generalizing q with
  | done r => trivial
  | console l m next ih => exact ih h
  | invoke c k ih =>
    obtain ⟨hc, hk⟩ := h
    refine ⟨fun ha => ?_, fun o => (ih o (hk o)).mono ?_⟩
    · have := hrank q c (.error .undefined) hc
      simp only [ha, if_true] at this
      omega
    · have := hrank q c o hc
      by_cases ha : c.awaited <;> simp [ha] at this ⊢ <;> omega

end Protocol

/-- The awaited calls left to the address machine. -/
def AddressStage.awaitsLeft : AddressStage → Nat
  | .publicKey => 1
  | _ => 0

/-- The awaited calls left to the signing machine, at most: the entropy, the
node, the dialog and `sign`. -/
def SignStage.awaitsLeft : SignStage → Nat
  | .entropy => 4
  | .node _ => 3
  | .address _ _ | .approval _ _ _ => 2
  | .runtimeMsg _ _ _ | .unsigned _ _ _ | .signature _ _ _ _ => 1
  | _ => 0

theorem AddressStage.awaitsLeft_next (keypairParams : JsValue) (q : AddressStage) (c : Call)
    (o : Except JsValue JsValue) (hc : q.expect keypairParams = some c) :
    (q.next o).awaitsLeft + (if c.awaited then 1 else 0) ≤ q.awaitsLeft := by
  cases q <;> simp only [AddressStage.expect, Option.some.injEq, reduceCtorEq] at hc <;> subst hc <;>
    cases o <;> simp only [AddressStage.next, apply_proceed AddressStage.awaitsLeft] <;>
    simp [AddressStage.awaitsLeft, Call.awaited]

theorem proceed_le {β : Type} (r : Except JsValue β) {a m : Nat} {f : β → Nat} (ha : a ≤ m)
    (hf : ∀ b, f b ≤ m) : proceed r a f ≤ m := by
  cases r <;> simp [ha, hf]

theorem SignStage.awaitsLeft_next (origin : String) (transaction keypairParams : JsValue) (q : SignStage)
    (c : Call) (o : Except JsValue JsValue) (hc : q.expect keypairParams = some c) :
    (q.next origin transaction o).awaitsLeft + (if c.awaited then 1 else 0) ≤ q.awaitsLeft := by
  cases q <;> simp only [SignStage.expect, Option.some.injEq, reduceCtorEq] at hc <;> subst hc <;>
    cases o <;> simp only [SignStage.next, apply_proceed SignStage.awaitsLeft,
      apply_ite SignStage.awaitsLeft] <;>
    simp [SignStage.awaitsLeft, Call.awaited, proceed_le, apply_ite (· ≤ 1)]

/-- The most calls a request's method awaits: the public key for `getAddress`;
the entropy, the node, the dialog and `sign` for `signTransaction`; none for
any other method, which throws at once. -/
def Request.maxAwaits (request : Request) : Nat :=
  match request.method with
  | "getAddress" => 1
  | "signTransaction" => 4
  | _ => 0

theorem onRpcRequest_awaitsAtMost (origin : String) (request : Request) :
    (onRpcRequest origin request).AwaitsAtMost request.maxAwaits := by
  unfold onRpcRequest
  split <;> rename_i h
  · simpa only [Request.maxAwaits, h] using Follows.awaitsAtMost _ AddressStage.awaitsLeft
      (AddressStage.awaitsLeft_next _) (getAddress_follows_member _)
  · simpa only [Request.maxAwaits, h] using Follows.awaitsAtMost _ SignStage.awaitsLeft
      (SignStage.awaitsLeft_next _ _ _) (signTransaction_follows_member _ _)
  · rw [throw_eq]
    trivial

/-! ## Turns of the event loop -/

namespace Loop

variable (env : Env)

theorem step_getElem? {loop : Loop} {a : Nat} {s : Script JsValue} (hs : loop.tasks[a]? = some s) (b : Nat) :
    (loop.step env b).tasks[a]? = some (if b = a then (s.resume env (loop.trace.map Prod.snd)).2 else s) := by
  by_cases hab : b = a
  · subst hab
    simp [step, hs, (List.getElem?_eq_some_iff.1 hs).1]
  · unfold step
    split <;> simp [hab, hs]

/-- Each turn a request has brings it one turn closer to its end. -/
theorem exec_finishesWithin {loop : Loop} {a n : Nat} {s : Script JsValue} (hs : loop.tasks[a]? = some s)
    (h : s.FinishesWithin env n) (schedule : List Nat) :
    ∃ s', (loop.exec env schedule).tasks[a]? = some s' ∧ s'.FinishesWithin env (n - schedule.count a) := by
  induction schedule generalizing loop n s with
  | nil => exact ⟨s, hs, h⟩
  | cons b schedule ih =>
    have hstep := step_getElem? env hs b
    by_cases hab : b = a
    · subst hab
      rw [if_pos rfl] at hstep
      obtain ⟨s', hs', h'⟩ := ih hstep (h.resume env _)
      exact ⟨s', hs', by simpa [List.count_cons, Nat.sub_sub, Nat.add_comm] using h'⟩
    · rw [if_neg hab] at hstep
      obtain ⟨s', hs', h'⟩ := ih hstep h
      exact ⟨s', hs', by simpa [List.count_cons, hab] using h'⟩

end Loop

/-- In every interleaving of any requests, whatever the collaborators answer,
a request that has had one turn more than the calls its method awaits is
finished: two turns for `getAddress`, five for `signTransaction`, one for any
other method. -/
theorem interleaving_requests_finish (env : Env) (requests : List (String × Request)) (schedule : List Nat)
    {a : Nat} {origin : String} {request : Request} (ha : requests[a]? = some (origin, request))
    (hturns : request.maxAwaits < schedule.count a) :
    ∃ r, ((Loop.start requests).exec env schedule).tasks[a]? = some (.done r) := by
  have hs : (Loop.start requests).tasks[a]? = some (onRpcRequest origin request) := by
    simp [Loop.start, ha]
  obtain ⟨s, hs', h⟩ := Loop.exec_finishesWithin env hs
    (finishesWithin_of_awaitsAtMost env (onRpcRequest_awaitsAtMost origin request)) schedule
  obtain ⟨r, rfl⟩ : ∃ r, s = .done r := by
    rwa [show request.maxAwaits + 1 - schedule.count a = 0 by omega] at h
  exact ⟨r, hs'⟩

/-- The shared-codec schedule gives the signing request its five turns. -/
theorem interleaving_requests_finish_pending_signature :
    signAndAddressRequests[0]? = some ("localhost", ⟨"signTransaction", testSignParams⟩) ∧
      Request.maxAwaits ⟨"signTransaction", testSignParams⟩ < pendingSignatureSchedule.count 0 ∧
      ∃ r, ((Loop.start signAndAddressRequests).exec (Env.ofAnswers sharedCodecAnswers)
        pendingSignatureSchedule).tasks[0]? = some (.done r) :=
  have ha : signAndAddressRequests[0]? = some ("localhost", ⟨"signTransaction", testSignParams⟩) := rfl
  have hturns : Request.maxAwaits ⟨"signTransaction", testSignParams⟩ < pendingSignatureSchedule.count 0 := by
    decide
  ⟨ha, hturns, interleaving_requests_finish _ _ _ ha hturns⟩

/-- Four turns are not enough for an approved signature. -/
example : (match ((Loop.start signAndAddressRequests).exec (Env.ofAnswers sharedCodecAnswers)
    [0, 0, 0, 1, 1, 0]).tasks[0]? with
    | some (.done _) => false
    | _ => true) = true := by
  decide

end SovereignSnap
