import SovereignSnap.Protocol.Interleaving
import SovereignSnap.Protocol.Secrecy

/-! # The private keys do not leak across requests

Two loops running the same requests under one schedule, against collaborators
that differ only in private keys, show an observer the same events and results.
-/

namespace SovereignSnap

open Js JsValue Script

theorem Call.awaited_mask (c : Call) : c.mask.awaited = c.awaited := by
  cases c <;> rfl

/-! ## Every branch of the handler -/

theorem getAddress_lowEquiv (params : JsValue) : LowEquiv (getAddress params) (getAddress params) := by
  unfold getAddress
  split <;> simp +contextual [getAddressTry, getAddressCatch, OutRel, Call.mask, Protocol.forall_except]

theorem onRpcRequest_lowEquiv (origin : String) (request : Request) :
    LowEquiv (onRpcRequest origin request) (onRpcRequest origin request) := by
  unfold onRpcRequest
  split
  · exact getAddress_lowEquiv _
  · exact signTransaction_lowEquiv origin _
  · rfl

/-! ## One turn -/

section Turn

variable {α : Type} {env1 env2 : Env} (henv : env1.LowRelated env2)
include henv

theorem LowEquiv.sync {s1 s2 : Script α} (h : LowEquiv s1 s2) {p1 p2 : List Event}
    (hp : p1.map Event.observe = p2.map Event.observe) :
    (s1.sync env1 p1).1.map Event.observe = (s2.sync env2 p2).1.map Event.observe ∧
      LowEquiv (s1.sync env1 p1).2 (s2.sync env2 p2).2 := by
  induction s1 generalizing s2 p1 p2 with
  | done r1 =>
      cases s2 <;> simp_all [LowEquiv, Script.sync]
  | console l m n ih =>
      cases s2 with
      | console l' m' n' =>
          obtain ⟨rfl, rfl, hn⟩ := h
          have := @ih n' hn (p1 ++ [.console l m]) (p2 ++ [.console l m]) (by simp [hp, Event.observe])
          simpa [Script.sync, Event.observe] using this
      | _ => simp [LowEquiv] at h
  | invoke c k ih =>
      cases s2 with
      | invoke c' k' =>
          obtain ⟨hc, hk⟩ := h
          have hw : c'.awaited = c.awaited := by rw [← Call.awaited_mask c', ← hc, Call.awaited_mask]
          by_cases ha : c.awaited
          · simpa [Script.sync, ha, hw] using ⟨hc, hk⟩
          · have ho := henv p1 p2 c c' hp hc
            have := @ih _ (k' (env2 p2 c')) (hk _ _ ho) (p1 ++ [.call c (env1 p1 c)])
              (p2 ++ [.call c' (env2 p2 c')]) (by simp [hp, Event.observe, hc])
            simpa [Script.sync, ha, hw, Event.observe, hc] using this
      | _ => simp [LowEquiv] at h

/-- A turn of related scripts makes events an observer sees alike and leaves
related scripts. -/
theorem LowEquiv.resume {s1 s2 : Script α} (h : LowEquiv s1 s2) {p1 p2 : List Event}
    (hp : p1.map Event.observe = p2.map Event.observe) :
    (s1.resume env1 p1).1.map Event.observe = (s2.resume env2 p2).1.map Event.observe ∧
      LowEquiv (s1.resume env1 p1).2 (s2.resume env2 p2).2 := by
  cases s1 with
  | done r1 => cases s2 <;> simp_all [LowEquiv, Script.resume]
  | console l m n =>
      cases s2 with
      | console l' m' n' =>
          obtain ⟨rfl, rfl, hn⟩ := h
          simpa [Script.resume, Event.observe] using @LowEquiv.sync α env1 env2 henv _ _ hn
            (p1 ++ [.console l m]) (p2 ++ [.console l m]) (by simp [hp, Event.observe])
      | _ => simp [LowEquiv] at h
  | invoke c k =>
      cases s2 with
      | invoke c' k' =>
          obtain ⟨hc, hk⟩ := h
          simpa [Script.resume, Event.observe, hc] using @LowEquiv.sync α env1 env2 henv _ _
            (hk _ _ (henv p1 p2 c c' hp hc)) (p1 ++ [.call c (env1 p1 c)]) (p2 ++ [.call c' (env2 p2 c')])
            (by simp [hp, Event.observe, hc])
      | _ => simp [LowEquiv] at h

end Turn

/-! ## Two loops under one schedule -/

/-- What an observer sees of a trace: each event, as it sees it, with its request. -/
def Loop.observe (trace : List (Nat × Event)) : List (Nat × Observation) :=
  trace.map fun x => (x.1, x.2.observe)

theorem Loop.observe_map_snd {t1 t2 : List (Nat × Event)} (h : Loop.observe t1 = Loop.observe t2) :
    (t1.map Prod.snd).map Event.observe = (t2.map Prod.snd).map Event.observe := by
  have := congrArg (List.map Prod.snd) h
  simpa [Loop.observe, Function.comp_def] using this

/-- Two loops an observer cannot tell apart: traces it sees alike, and related
requests at every place. -/
structure Loop.LowRel (l1 l2 : Loop) : Prop where
  trace : Loop.observe l1.trace = Loop.observe l2.trace
  length : l1.tasks.length = l2.tasks.length
  tasks : ∀ (a : Nat) (s1 s2 : Script JsValue), l1.tasks[a]? = some s1 → l2.tasks[a]? = some s2 → LowEquiv s1 s2

theorem exists_getElem?_of_length {β γ : Type} {l : List β} {l' : List γ} (hl : l.length = l'.length)
    {a : Nat} {x : β} (h : l[a]? = some x) : ∃ y, l'[a]? = some y :=
  ⟨_, List.getElem?_eq_getElem (hl ▸ (List.getElem?_eq_some_iff.1 h).1)⟩

section Loops

variable {env1 env2 : Env} (henv : env1.LowRelated env2)
include henv

theorem Loop.LowRel.step {l1 l2 : Loop} (h : l1.LowRel l2) (a : Nat) :
    (l1.step env1 a).LowRel (l2.step env2 a) := by
  unfold Loop.step
  cases h1 : l1.tasks[a]? with
  | none =>
      have h2 : l2.tasks[a]? = none := by
        rw [List.getElem?_eq_none_iff] at h1 ⊢
        exact h.length ▸ h1
      simpa [h2] using h
  | some s1 =>
      obtain ⟨s2, h2⟩ := exists_getElem?_of_length h.length h1
      obtain ⟨hev, hs⟩ := (h.tasks a s1 s2 h1 h2).resume henv (Loop.observe_map_snd h.trace)
      simp only [h2]
      refine ⟨?_, by simp [h.length], fun b t1 t2 hb1 hb2 => ?_⟩
      · have ht := h.trace
        have := congrArg (List.map ((a, ·))) hev
        simp only [Loop.observe, List.map_append, List.map_map] at ht ⊢
        rw [ht]
        simpa [Function.comp_def] using this
      · rw [List.getElem?_set] at hb1 hb2
        by_cases hab : a = b
        · subst hab
          have hlt1 : a < l1.tasks.length := (List.getElem?_eq_some_iff.1 h1).1
          have hlt2 : a < l2.tasks.length := (List.getElem?_eq_some_iff.1 h2).1
          simp only [hlt1, hlt2, if_true, Option.some.injEq] at hb1 hb2
          exact hb1 ▸ hb2 ▸ hs
        · simp only [hab, if_false] at hb1 hb2
          exact h.tasks b t1 t2 hb1 hb2

theorem Loop.LowRel.exec {l1 l2 : Loop} (h : l1.LowRel l2) (schedule : List Nat) :
    (l1.exec env1 schedule).LowRel (l2.exec env2 schedule) := by
  induction schedule generalizing l1 l2 with
  | nil => exact h
  | cons a schedule ih => exact ih (h.step henv a)

end Loops

theorem Loop.lowRel_start (requests : List (String × Request)) :
    (Loop.start requests).LowRel (Loop.start requests) :=
  ⟨rfl, rfl, fun a s1 s2 h1 h2 => by
    obtain rfl := Option.some.inj (h1.symm.trans h2)
    simp only [Loop.start, List.getElem?_map, Option.map_eq_some'] at h1
    obtain ⟨r, -, rfl⟩ := h1
    exact onRpcRequest_lowEquiv r.1 r.2⟩

theorem lowEquiv_done_left {α : Type} {r : Except JsValue α} {s : Script α} (h : LowEquiv (.done r) s) :
    s = .done r := by
  cases s <;> simp_all [LowEquiv]

/-- In every interleaving of any requests, under any schedule, collaborators that
differ only in the private keys of the nodes they decode, with `sign` answering
alike whatever the key, give loops an observer cannot tell apart: the same
console output and calls, the keys passed to `sign` aside, in the same order and
from the same requests; and each request finishes in one loop exactly when it
finishes in the other, with the same result. -/
theorem interleaving_hides_private_keys (requests : List (String × Request)) {env1 env2 : Env}
    (henv : env1.LowRelated env2) (schedule : List Nat) :
    Loop.observe ((Loop.start requests).exec env1 schedule).trace =
        Loop.observe ((Loop.start requests).exec env2 schedule).trace ∧
      ∀ (a : Nat) (r : Except JsValue JsValue),
        ((Loop.start requests).exec env1 schedule).tasks[a]? = some (.done r) ↔
        ((Loop.start requests).exec env2 schedule).tasks[a]? = some (.done r) := by
  have h := (Loop.lowRel_start requests).exec henv schedule
  refine ⟨h.trace, fun a r => ⟨fun h1 => ?_, fun h2 => ?_⟩⟩
  · obtain ⟨s2, h2⟩ := exists_getElem?_of_length h.length h1
    rw [h2, lowEquiv_done_left (h.tasks a _ _ h1 h2)]
  · obtain ⟨s1, h1⟩ := exists_getElem?_of_length h.length.symm h2
    have hs := h.tasks a _ _ h1 h2
    cases s1 <;> simp_all [LowEquiv]

/-- The signing request and the address request of the shared-codec schedule,
against nodes with the private keys `0x01` and `0x02`. -/
theorem interleaving_hides_private_keys_pending_signature :
    (Env.ofAnswers (approvingAnswers "0x01")).LowRelated (Env.ofAnswers (approvingAnswers "0x02")) ∧
      Loop.observe ((Loop.start signAndAddressRequests).exec (Env.ofAnswers (approvingAnswers "0x01"))
          pendingSignatureSchedule).trace =
        Loop.observe ((Loop.start signAndAddressRequests).exec (Env.ofAnswers (approvingAnswers "0x02"))
          pendingSignatureSchedule).trace ∧
      ∀ (a : Nat) (r : Except JsValue JsValue),
        ((Loop.start signAndAddressRequests).exec (Env.ofAnswers (approvingAnswers "0x01"))
          pendingSignatureSchedule).tasks[a]? = some (.done r) ↔
        ((Loop.start signAndAddressRequests).exec (Env.ofAnswers (approvingAnswers "0x02"))
          pendingSignatureSchedule).tasks[a]? = some (.done r) :=
  have henv : (Env.ofAnswers (approvingAnswers "0x01")).LowRelated
      (Env.ofAnswers (approvingAnswers "0x02")) := by
    intro _ _ c1 c2 _ hc
    cases c1 <;> cases c2 <;> simp_all [Call.mask, OutRel, approvingAnswers, Env.ofAnswers]
    exact ⟨rfl, _, _, rfl, rfl, by decide, by decide⟩
  ⟨henv, interleaving_hides_private_keys signAndAddressRequests henv pendingSignatureSchedule⟩

end SovereignSnap
