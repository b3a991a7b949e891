import SovereignSnap.Protocol.Order
import SovereignSnap.Protocol.Assembly

/-! # Requests in flight together

The event loop runs each `async` request up to a call it awaits and may run
others before resuming it; every trace it makes is cut at awaits only.
-/

namespace SovereignSnap

open Js JsValue Script Protocol

namespace Call

/-- The calls `onRpcRequest` awaits. -/
def awaited : Call → Bool
  | getBip32PublicKey _ | getBip32Entropy _ | fromJSON _ | dialog _ | sign _ _ => true
  | _ => false

def isWasm : Call → Bool
  | bechEncodePublicKey _ | serializeCall _ | serializeUnsignedTransaction _
  | serializeTransaction _ | dealloc => true
  | _ => false

/-- The custody requests and the decoding of their entropy. -/
def custody : Call → Bool
  | getBip32PublicKey _ | getBip32Entropy _ | fromJSON _ => true
  | _ => false

end Call

/-! ## One request's turns -/

namespace Script

variable {α : Type} (env : Env)

/-- A script stopped where the event loop may switch: finished, or at an awaited call. -/
def suspended : Script α → Bool
  | done _ => true
  | console _ _ _ => false
  | invoke c _ => c.awaited

/-- The synchronous part of a script: its steps up to the next awaited call, which
is left for the event loop. -/
def sync : List Event → Script α → List Event × Script α
  | _, done r => ([], done r)
  | past, console l m next =>
      let rest := next.sync (past ++ [.console l m])
      (.console l m :: rest.1, rest.2)
  | past, invoke c k =>
      if c.awaited then ([], invoke c k)
      else
        let o := env past c
        let rest := (k o).sync (past ++ [.call c o])
        (.call c o :: rest.1, rest.2)

/-- A turn of a request: the awaited call it stopped at settles (a request not yet
started makes its first step), and it runs synchronously up to its next await. -/
def resume : List Event → Script α → List Event × Script α
  | _, done r => ([], done r)
  | past, console l m next =>
      let rest := next.sync env (past ++ [.console l m])
      (.console l m :: rest.1, rest.2)
  | past, invoke c k =>
      let o := env past c
      let rest := (k o).sync env (past ++ [.call c o])
      (.call c o :: rest.1, rest.2)

theorem sync_reaches (s : Script α) (past : List Event) :
    s.Reaches (s.sync env past).1 (s.sync env past).2 := by
  induction s generalizing past with
  | done r => exact .refl _
  | console l m next ih => exact .console (ih _)
  | invoke c k ih =>
      by_cases hc : c.awaited
      · simpa [sync, hc] using Reaches.refl (invoke c k)
      · simpa [sync, hc] using Reaches.invoke (ih (env past c) _)

theorem sync_suspended (s : Script α) (past : List Event) : (s.sync env past).2.suspended := by
  induction s generalizing past with
  | done r => rfl
  | console l m next ih => exact ih _
  | invoke c k ih =>
      by_cases hc : c.awaited
      · simp [sync, hc, suspended]
      · simpa [sync, hc] using ih (env past c) _

theorem resume_reaches (s : Script α) (past : List Event) :
    s.Reaches (s.resume env past).1 (s.resume env past).2 := by
  cases s with
  | done r => exact .refl _
  | console l m next => exact .console (sync_reaches env next _)
  | invoke c k => exact .invoke (sync_reaches env (k _) _)

theorem resume_suspended (s : Script α) (past : List Event) : (s.resume env past).2.suspended := by
  cases s with
  | done r => rfl
  | console l m next => exact sync_suspended env next _
  | invoke c k => exact sync_suspended env (k _) _

theorem resume_of_suspended {s : Script α} (h : s.suspended) (past : List Event) :
    (s.resume env past).1 = [] ∨
      ∃ c o es, (s.resume env past).1 = .call c o :: es ∧ c.awaited := by
  cases s with
  | done r => exact .inl rfl
  | console l m next => simp [suspended] at h
  | invoke c k => exact .inr ⟨c, _, _, rfl, h⟩

end Script

/-! ## The event loop -/

/-- The requests in flight and the events so far, each with the request that made it. -/
structure Loop where
  tasks : List (Script JsValue)
  trace : List (Nat × Event)

namespace Loop

variable (env : Env)

/-- The event loop gives request `a` a turn. -/
def step (loop : Loop) (a : Nat) : Loop :=
  match loop.tasks[a]? with
  | none => loop
  | some s =>
      let turn := s.resume env (loop.trace.map Prod.snd)
      ⟨loop.tasks.set a turn.2, loop.trace ++ turn.1.map ((a, ·))⟩

def exec (loop : Loop) (schedule : List Nat) : Loop := schedule.foldl (step env) loop

/-- The requests handed to `onRpcRequest`, none started. -/
def start (requests : List (String × Request)) : Loop :=
  ⟨requests.map fun r => onRpcRequest r.1 r.2, []⟩

def own (a : Nat) (trace : List (Nat × Event)) : List Event :=
  trace.filterMap fun x => if x.1 = a then some x.2 else none

@[simp] theorem own_nil (a : Nat) : own a [] = [] := rfl

@[simp] theorem own_append (a : Nat) (t t' : List (Nat × Event)) :
    own a (t ++ t') = own a t ++ own a t' := List.filterMap_append _ _ _

@[simp] theorem own_cons (a : Nat) (x : Nat × Event) (t : List (Nat × Event)) :
    own a (x :: t) = if x.1 = a then x.2 :: own a t else own a t := by
  by_cases h : x.1 = a <;> simp [own, h]

theorem own_split {events : List (Nat × Event)} {k a : Nat} {e : Event}
    (hk : events[k]? = some (a, e)) :
    own a events = own a (events.take k) ++ e :: own a (events.drop (k + 1)) := by
  obtain ⟨hlt, he⟩ := List.getElem?_eq_some_iff.1 hk
  conv_lhs => rw [← List.take_append_drop k events, List.drop_eq_getElem_cons hlt, he]
  simp

@[simp] theorem mem_own {a : Nat} {e : Event} {events : List (Nat × Event)} :
    e ∈ own a events ↔ (a, e) ∈ events := by
  simp [own, List.mem_filterMap]

theorem own_turn (a b : Nat) (es : List Event) :
    own a (es.map ((b, ·))) = if b = a then es else [] := by
  induction es with
  | nil => simp
  | cons e es ih => by_cases h : b = a <;> simp_all

/-- Another request's events fall between two events of a request only before a
call it awaited, with which it resumed. -/
def CutAtAwaits (events : List (Nat × Event)) : Prop :=
  ∀ (i j l a b : Nat) (ei ej el : Event), events[i]? = some (a, ei) → events[j]? = some (b, ej) →
    events[l]? = some (a, el) → i < j → j < l → b ≠ a →
    ∃ (k : Nat) (c : Call) (o : Except JsValue JsValue), j < k ∧ k ≤ l ∧ events[k]? = some (a, .call c o) ∧ c.awaited

/-- What every loop reached from the requests `init` keeps. -/
structure Invariant (init : List (Script JsValue)) (loop : Loop) : Prop where
  length : loop.tasks.length = init.length
  range : ∀ x ∈ loop.trace, x.1 < init.length
  reaches : ∀ a (s0 : Script JsValue), init[a]? = some s0 → ∃ s, loop.tasks[a]? = some s ∧ s0.Reaches (own a loop.trace) s
  suspended : ∀ a (s : Script JsValue) e, loop.tasks[a]? = some s → (a, e) ∈ loop.trace → s.suspended
  cut : CutAtAwaits loop.trace

theorem inv_init (init : List (Script JsValue)) : Invariant init ⟨init, []⟩ :=
  ⟨rfl, nofun, fun _ s0 h => ⟨s0, h, .refl s0⟩, fun _ _ _ _ => nofun, fun i _ _ _ _ _ _ _ hi => by simp at hi⟩

theorem inv_start (requests : List (String × Request)) :
    Invariant (requests.map fun r => onRpcRequest r.1 r.2) (start requests) :=
  inv_init _

section Turn

variable {init : List (Script JsValue)} {loop : Loop} {a : Nat} {s : Script JsValue}
  (h : Invariant init loop) (hs : loop.tasks[a]? = some s)
include h hs

theorem Invariant.turn_range : ∀ x ∈ loop.trace ++ (s.resume env (loop.trace.map Prod.snd)).1.map ((a, ·)),
    x.1 < init.length := by
  have ha : a < init.length := h.length ▸ (List.getElem?_eq_some_iff.1 hs).1
  simp only [List.mem_append, List.mem_map]
  rintro x (hx | ⟨e, -, rfl⟩)
  · exact h.range x hx
  · exact ha

/-- A turn splits no other request's synchronous run: it starts with the awaited
call its request resumes from, once that request has started. -/
theorem Invariant.turn_cut :
    CutAtAwaits (loop.trace ++ (s.resume env (loop.trace.map Prod.snd)).1.map ((a, ·))) := by
  intro i j l x y ei ej el hi hj hl hij hjl hyx
  set turn := (s.resume env (loop.trace.map Prod.snd)).1
  by_cases hlt : l < loop.trace.length
  · rw [List.getElem?_append_left (by omega)] at hi hj
    rw [List.getElem?_append_left hlt] at hl
    obtain ⟨k, c, o, hjk, hkl, hk, hc⟩ := h.cut i j l x y ei ej el hi hj hl hij hjl hyx
    exact ⟨k, c, o, hjk, hkl, by rw [List.getElem?_append_left (by omega)]; exact hk, hc⟩
  have hxa : x = a := by
    rw [List.getElem?_append_right (by omega)] at hl
    obtain ⟨e, -, he⟩ := Option.map_eq_some'.1 (List.getElem?_map _ _ _ ▸ hl)
    exact (Prod.mk.inj he).1.symm
  subst hxa
  have hjt : j < loop.trace.length := by
    by_contra hjt
    rw [List.getElem?_append_right (by omega)] at hj
    obtain ⟨e, -, he⟩ := Option.map_eq_some'.1 (List.getElem?_map _ _ _ ▸ hj)
    exact hyx (Prod.mk.inj he).1.symm
  rw [List.getElem?_append_left (by omega)] at hi
  have hsus := h.suspended x s ei hs (List.getElem?_mem hi)
  rcases resume_of_suspended env hsus (loop.trace.map Prod.snd) with hnil | ⟨c, o, es, hturn, hc⟩
  · rw [List.getElem?_append_right (by omega)] at hl
    simp [turn, hnil] at hl
  · refine ⟨loop.trace.length, c, o, hjt, by omega, ?_, hc⟩
    rw [List.getElem?_append_right le_rfl]
    simp [turn, hturn]

end Turn

/-- A turn keeps the invariant. -/
theorem Invariant.step {init : List (Script JsValue)} {loop : Loop} (h : Invariant init loop) (a : Nat) :
    Invariant init (loop.step env a) := by
  cases hs : loop.tasks[a]? with
  | none => simpa [Loop.step, hs] using h
  | some s =>
      simp only [Loop.step, hs]
      refine ⟨by simpa using h.length, h.turn_range env hs, fun b s0 hb => ?_, fun b t e hb he => ?_,
        h.turn_cut env hs⟩
      · obtain ⟨t, ht, hr⟩ := h.reaches b s0 hb
        by_cases hab : a = b
        · subst hab
          rw [hs] at ht
          obtain rfl := Option.some.inj ht
          refine ⟨(s.resume env (loop.trace.map Prod.snd)).2,
            by simp [(List.getElem?_eq_some_iff.1 hs).1], ?_⟩
          simpa [own_turn] using hr.trans (resume_reaches env _ _)
        · exact ⟨t, by simpa [List.getElem?_set, hab] using ht, by simpa [own_turn, hab] using hr⟩
      · by_cases hab : a = b
        · subst hab
          obtain rfl : t = (s.resume env (loop.trace.map Prod.snd)).2 := by
            simpa [(List.getElem?_eq_some_iff.1 hs).1] using hb.symm
          exact resume_suspended env _ _
        · rw [List.getElem?_set_ne hab] at hb
          simp only [List.mem_append, List.mem_map, Prod.mk.injEq] at he
          rcases he with he | ⟨_, -, rfl, -⟩
          · exact h.suspended b t e hb he
          · exact absurd rfl hab

/-- Every loop the schedule reaches keeps the invariant. -/
theorem Invariant.exec {init : List (Script JsValue)} {loop : Loop} (h : Invariant init loop)
    (schedule : List Nat) : Invariant init (loop.exec env schedule) := by
  induction schedule generalizing loop with
  | nil => exact h
  | cons a schedule ih => exact ih (h.step env a)

end Loop

/-! ## The order of one request's calls -/

def AddressStage.keyed : AddressStage → Prop
  | .publicKey => False
  | _ => True

def SignStage.keyed : SignStage → Prop
  | .entropy | .node _ => False
  | _ => True

section Keyed

variable {keypairParams : JsValue} {c : Call}

theorem AddressStage.keyed_next {q : AddressStage} (hq : q.keyed) (o : Except JsValue JsValue) :
    (q.next o).keyed := by
  cases q <;> cases o <;> simp_all [AddressStage.next, apply_proceed AddressStage.keyed, AddressStage.keyed]

theorem AddressStage.keyed_of_expect {q : AddressStage} (hc : q.expect keypairParams = some c)
    (hw : c.isWasm) : q.keyed := by
  cases q <;> simp only [AddressStage.expect, Option.some.injEq, reduceCtorEq] at hc <;> subst hc <;> trivial

theorem AddressStage.custody_of_keyed {q : AddressStage} (hq : q.keyed)
    (hc : q.expect keypairParams = some c) : c.custody = false := by
  cases q <;> simp only [AddressStage.expect, Option.some.injEq, reduceCtorEq] at hc <;> subst hc <;>
    first | rfl | exact hq.elim

theorem SignStage.keyed_next {q : SignStage} (hq : q.keyed) (origin : String) (transaction : JsValue)
    (o : Except JsValue JsValue) : (q.next origin transaction o).keyed := by
  cases q <;> cases o <;> simp only [SignStage.next, apply_proceed SignStage.keyed,
    apply_ite SignStage.keyed] <;> simp_all [SignStage.keyed]

theorem SignStage.keyed_of_expect {q : SignStage} (hc : q.expect keypairParams = some c)
    (hw : c.isWasm) : q.keyed := by
  cases q <;> simp only [SignStage.expect, Option.some.injEq, reduceCtorEq] at hc <;> subst hc <;> trivial

theorem SignStage.custody_of_keyed {q : SignStage} (hq : q.keyed)
    (hc : q.expect keypairParams = some c) : c.custody = false := by
  cases q <;> simp only [SignStage.expect, Option.some.injEq, reduceCtorEq] at hc <;> subst hc <;>
    first | rfl | exact hq.elim

end Keyed

theorem onRpcRequest_custody_first (origin : String) (request : Request) {es : List Event}
    {s : Script JsValue} (hr : (onRpcRequest origin request).Reaches es s) (i : Nat)
    (x : Call × Except JsValue JsValue) (hx : (Event.calls es)[i]? = some x)
    (hy : ∃ y ∈ (Event.calls es).take i, y.1.isWasm) : x.1.custody = false := by
  unfold onRpcRequest at hr
  split at hr
  · exact Follows.after_trigger _ AddressStage.keyed (fun c => c.isWasm) (fun c => c.custody = false)
      (fun _ o hq => AddressStage.keyed_next hq o) (fun _ _ hc hw => AddressStage.keyed_of_expect hc hw)
      (fun _ _ hq hc => AddressStage.custody_of_keyed hq hc) (getAddress_follows_member _) hr i x hx hy
  · exact Follows.after_trigger _ SignStage.keyed (fun c => c.isWasm) (fun c => c.custody = false)
      (fun _ o hq => SignStage.keyed_next hq _ _ o) (fun _ _ hc hw => SignStage.keyed_of_expect hc hw)
      (fun _ _ hq hc => SignStage.custody_of_keyed hq hc) (signTransaction_follows_member _ _) hr i x hx hy
  · cases hr
    simp [Event.calls] at hx

/-! ## The shared codec -/

/-- In every interleaving of requests, another request's events, its release of
the codec among them, fall between a request's call of the codec and its own
release only where that request awaits the dialog or `sign`. -/
theorem codec_shared_across_dialog_or_sign (env : Env) (requests : List (String × Request))
    (schedule : List Nat) {i j l a b : Nat} {w : Call} {o1 o2 : Except JsValue JsValue} {ej : Event}
    (hi : ((Loop.start requests).exec env schedule).trace[i]? = some (a, .call w o1)) (hw : w.isWasm)
    (hj : ((Loop.start requests).exec env schedule).trace[j]? = some (b, ej)) (hb : b ≠ a)
    (hl : ((Loop.start requests).exec env schedule).trace[l]? = some (a, .call .dealloc o2))
    (hij : i < j) (hjl : j < l) :
    ∃ k c o, i < k ∧ k < l ∧
      ((Loop.start requests).exec env schedule).trace[k]? = some (a, .call c o) ∧
      ((∃ content, c = .dialog content) ∨ ∃ message key, c = .sign message key) := by
  have hinv := (Loop.inv_start requests).exec env schedule
  obtain ⟨k, c, o, hjk, hkl, hk, hc⟩ := hinv.cut i j l a b _ _ _ hi hj hl hij hjl hb
  have hlk : k ≠ l := by
    rintro rfl
    rw [hk] at hl
    simp only [Option.some.injEq, Prod.mk.injEq, Event.call.injEq] at hl
    rw [hl.2.1] at hc
    simp [Call.awaited] at hc
  -- the request's own events are a partial run of its handler, with the codec call before c
  set events := ((Loop.start requests).exec env schedule).trace
  have ha : a < requests.length := by simpa using hinv.range _ (List.getElem?_mem hi)
  obtain ⟨s, -, hr⟩ := hinv.reaches a (onRpcRequest requests[a].1 requests[a].2) (by simp [ha])
  rw [Loop.own_split hk] at hr
  have hin : (a, Event.call w o1) ∈ events.take k :=
    List.getElem?_mem (by rw [List.getElem?_take_of_lt (show i < k by omega)]; exact hi)
  have hwin : (w, o1) ∈ Event.calls (Loop.own a (events.take k)) :=
    Event.mem_calls.2 (Loop.mem_own.2 hin)
  have hcust := onRpcRequest_custody_first _ _ hr (Event.calls (Loop.own a (events.take k))).length
    (c, o) (by simp only [Event.calls_append, Event.calls]; rw [List.getElem?_append_right le_rfl, Nat.sub_self, List.getElem?_cons_zero])
    ⟨(w, o1), by simpa [Event.calls] using hwin, hw⟩
  refine ⟨k, c, o, by omega, by omega, hk, ?_⟩
  cases c <;> simp only [Call.awaited, Call.custody, Bool.false_eq_true, reduceCtorEq] at hc hcust
  case dialog content => exact .inl ⟨content, rfl⟩
  case sign message key => exact .inr ⟨message, key, rfl⟩

/-- Collaborators that answer every call of the address and signing flows. -/
def sharedCodecAnswers : Call → Except JsValue JsValue
  | .getBip32PublicKey _ => .ok (.string "0x00abcd")
  | .getBip32Entropy _ => .ok (.string "entropy")
  | .fromJSON _ => .ok (.object [("privateKey", .string "0x01"), ("publicKey", .string "0x00abcd")])
  | .bechEncodePublicKey _ => .ok (.string "sov1abcd")
  | .dialog _ => .ok (.bool true)
  | .sign _ _ => .ok (.bytes [1, 2])
  | .serializeTransaction _ => .ok (.bytes [3])
  | _ => .ok (.bytes [])

/-- A signing request and an address request in flight together. -/
def signAndAddressRequests : List (String × Request) :=
  [("localhost", ⟨"signTransaction", testSignParams⟩), ("localhost", ⟨"getAddress", keyIdZeroParams⟩)]

/-- The signing request's turns up to its dialog, the address request's turns to
its end, then the signing request's turns to its end. -/
def pendingSignatureSchedule : List Nat := [0, 0, 0, 1, 1, 0, 0]

/-- While the signing request awaits its dialog, the address request runs to its
end and releases the codec; the signing request then serializes its call message
with the codec another request released, and releases it again. -/
theorem getAddress_releases_codec_of_pending_signature :
    let events := ((Loop.start signAndAddressRequests).exec (Env.ofAnswers sharedCodecAnswers)
      pendingSignatureSchedule).trace
    let panel := (confirmationPanel "localhost" (testSignParams.member "transaction")
      (.string "sov1abcd")).toOption.getD []
    events[4]? = some (0, .call (.bechEncodePublicKey "abcd") (.ok (.string "sov1abcd"))) ∧
    events[11]? = some (1, .call .dealloc (.ok (.bytes []))) ∧
    events[13]? = some (0, .call (.dialog panel) (.ok (.bool true))) ∧
    events[15]? = some (0, .call (.serializeCall (.object [("bank", .object [])])) (.ok (.bytes []))) ∧
    events[22]? = some (0, .call .dealloc (.ok (.bytes []))) := by
  decide

theorem codec_shared_across_dialog_or_sign_pending_signature :
    let events := ((Loop.start signAndAddressRequests).exec (Env.ofAnswers sharedCodecAnswers)
      pendingSignatureSchedule).trace
    events[4]? = some (0, .call (.bechEncodePublicKey "abcd") (.ok (.string "sov1abcd"))) ∧
    (Call.bechEncodePublicKey "abcd").isWasm ∧ events[11]? = some (1, .call .dealloc (.ok (.bytes []))) ∧
    (1 : Nat) ≠ 0 ∧ events[22]? = some (0, .call .dealloc (.ok (.bytes []))) ∧ 4 < 11 ∧ 11 < 22 ∧
    ∃ k c o, 4 < k ∧ k < 22 ∧ events[k]? = some (0, .call c o) ∧
      ((∃ content, c = .dialog content) ∨ ∃ message key, c = .sign message key) :=
  have h4 : ((Loop.start signAndAddressRequests).exec (Env.ofAnswers sharedCodecAnswers)
      pendingSignatureSchedule).trace[4]? =
      some (0, .call (.bechEncodePublicKey "abcd") (.ok (.string "sov1abcd"))) := by decide
  have h11 : ((Loop.start signAndAddressRequests).exec (Env.ofAnswers sharedCodecAnswers)
      pendingSignatureSchedule).trace[11]? = some (1, .call .dealloc (.ok (.bytes []))) := by decide
  have h22 : ((Loop.start signAndAddressRequests).exec (Env.ofAnswers sharedCodecAnswers)
      pendingSignatureSchedule).trace[22]? = some (0, .call .dealloc (.ok (.bytes []))) := by decide
  ⟨h4, rfl, h11, by decide, h22, by decide, by decide,
    codec_shared_across_dialog_or_sign _ _ _ h4 rfl h11 (by decide) h22 (by decide) (by decide)⟩

end SovereignSnap
