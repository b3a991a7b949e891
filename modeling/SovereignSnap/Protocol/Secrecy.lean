import SovereignSnap.Protocol.Assembly

/-! # The private key does not leak

Two signing runs whose collaborators differ only in the node's private key cannot
be told apart: `LowEquiv` relates them call by call.
-/

namespace SovereignSnap

open Js JsValue Script

/-- A call as an observer sees it: the key passed to `sign` hidden. -/
def Call.mask : Call → Call
  | .sign m _ => .sign m ""
  | c => c

/-- What an observer sees of an event. -/
inductive Observation where
  | console (level : Level) (message : String)
  | call (c : Call)
deriving DecidableEq

def Event.observe : Event → Observation
  | .console l m => .console l m
  | .call c _ => .call c.mask

/-- Two nodes that differ at most in their private keys, both non-empty strings. -/
def NodeRel (n1 n2 : JsValue) : Prop :=
  n1.get "publicKey" = n2.get "publicKey" ∧ ∃ k1 k2, n1.get "privateKey" = .ok (.string k1) ∧
    n2.get "privateKey" = .ok (.string k2) ∧ k1 ≠ "" ∧ k2 ≠ ""

/-- Outcomes of a call an observer cannot tell apart: equal, except that
`SLIP10Node.fromJSON` may give nodes that differ in their private keys. -/
def OutRel : Call → Except JsValue JsValue → Except JsValue JsValue → Prop
  | .fromJSON _, o1, o2 => o1 = o2 ∨ ∃ n1 n2, o1 = .ok n1 ∧ o2 = .ok n2 ∧ NodeRel n1 n2
  | _, o1, o2 => o1 = o2

/-- Collaborators that answer alike, up to the node's private key, whenever an
observer saw the same of the two runs so far. -/
def Script.Env.LowRelated (env1 env2 : Env) : Prop :=
  ∀ p1 p2 c1 c2, p1.map Event.observe = p2.map Event.observe → c1.mask = c2.mask →
    OutRel c1 (env1 p1 c1) (env2 p2 c2)

/-- Two scripts an observer cannot tell apart, whatever outcomes it cannot tell
apart their calls meet. -/
def LowEquiv {α : Type} : Script α → Script α → Prop
  | .done r1, .done r2 => r1 = r2
  | .console l1 m1 n1, .console l2 m2 n2 => l1 = l2 ∧ m1 = m2 ∧ LowEquiv n1 n2
  | .invoke c1 k1, .invoke c2 k2 => c1.mask = c2.mask ∧ ∀ o1 o2, OutRel c1 o1 o2 → LowEquiv (k1 o1) (k2 o2)
  | _, _ => False

section LowEquiv

variable {α : Type}

@[simp] theorem lowEquiv_done (r1 r2 : Except JsValue α) :
    LowEquiv (.done r1) (.done r2) ↔ r1 = r2 := Iff.rfl

@[simp] theorem lowEquiv_console (l1 l2 : Level) (m1 m2 : String) (n1 n2 : Script α) :
    LowEquiv (.console l1 m1 n1) (.console l2 m2 n2) ↔ l1 = l2 ∧ m1 = m2 ∧ LowEquiv n1 n2 := Iff.rfl

@[simp] theorem lowEquiv_invoke (c1 c2 : Call) (k1 k2 : Except JsValue JsValue → Script α) :
    LowEquiv (.invoke c1 k1) (.invoke c2 k2) ↔
      c1.mask = c2.mask ∧ ∀ o1 o2, OutRel c1 o1 o2 → LowEquiv (k1 o1) (k2 o2) := Iff.rfl

/-- Two scripts an observer cannot tell apart, run against related collaborators
after runs it saw alike, give runs it sees alike, with the same result. -/
theorem LowEquiv.run {s1 s2 : Script α} (h : LowEquiv s1 s2) {env1 env2 : Env}
    (henv : env1.LowRelated env2) {p1 p2 : List Event}
    (hp : p1.map Event.observe = p2.map Event.observe) :
    (s1.run env1 p1).events.map Event.observe = (s2.run env2 p2).events.map Event.observe ∧
      (s1.run env1 p1).result = (s2.run env2 p2).result := by
  induction s1 generalizing s2 p1 p2 with
  | done r1 =>
      cases s2 <;> simp_all [LowEquiv]
  | console l m n ih =>
      cases s2 with
      | console l' m' n' =>
          obtain ⟨rfl, rfl, hn⟩ := h
          have := @ih n' hn (p1 ++ [.console l m]) (p2 ++ [.console l m])
            (by simp [hp, Event.observe])
          simpa [Event.observe] using this
      | _ => simp [LowEquiv] at h
  | invoke c k ih =>
      cases s2 with
      | invoke c' k' =>
          obtain ⟨hc, hk⟩ := h
          have ho := henv p1 p2 c c' hp hc
          have := @ih _ (k' (env2 p2 c')) (hk _ _ ho) (p1 ++ [.call c (env1 p1 c)])
            (p2 ++ [.call c' (env2 p2 c')]) (by simp [hp, Event.observe, hc])
          simpa [Event.observe, hc] using this
      | _ => simp [LowEquiv] at h

@[simp] theorem lowEquiv_done_bind {β : Type} (r : Except JsValue β) (f1 f2 : β → Script α) :
    LowEquiv ((done r).bind f1) ((done r).bind f2) ↔ ∀ b, r = .ok b → LowEquiv (f1 b) (f2 b) := by
  cases r <;> simp

@[simp] theorem lowEquiv_done_bind_tryCatch {β : Type} (r : Except JsValue β) (f1 f2 : β → Script α)
    (h : JsValue → Script α) :
    LowEquiv (((done r).bind f1).tryCatch h) (((done r).bind f2).tryCatch h) ↔
      (∀ e, r = .error e → LowEquiv (h e) (h e)) ∧
        ∀ b, r = .ok b → LowEquiv ((f1 b).tryCatch h) ((f2 b).tryCatch h) := by
  cases r <;> simp

@[simp] theorem lowEquiv_ite_tryCatch (c : Prop) [Decidable c] (a1 a2 b1 b2 : Script α)
    (h : JsValue → Script α) :
    LowEquiv ((if c then a1 else b1).tryCatch h) ((if c then a2 else b2).tryCatch h) ↔
      (c → LowEquiv (a1.tryCatch h) (a2.tryCatch h)) ∧ (¬c → LowEquiv (b1.tryCatch h) (b2.tryCatch h)) := by
  split <;> simp_all

end LowEquiv

section Handler

variable (origin : String) (transaction : JsValue)

theorem signTransactionCatch_lowEquiv (er : JsValue) :
    LowEquiv (signTransactionCatch er) (signTransactionCatch er) := by
  simp +contextual [signTransactionCatch, OutRel, Call.mask, Protocol.forall_except]

theorem assembleTransaction_lowEquiv (publicKey : String) (unsignedTransaction signature : JsValue) :
    LowEquiv ((assembleTransaction publicKey unsignedTransaction signature).tryCatch signTransactionCatch)
      ((assembleTransaction publicKey unsignedTransaction signature).tryCatch signTransactionCatch) := by
  simp +contextual [assembleTransaction, OutRel, Call.mask, Protocol.forall_except,
    signTransactionCatch_lowEquiv]

theorem serializeAndSign_lowEquiv {n1 n2 : JsValue} (h : n1 = n2 ∨ NodeRel n1 n2) (publicKey : String) :
    LowEquiv ((serializeAndSign transaction n1 publicKey).tryCatch signTransactionCatch)
      ((serializeAndSign transaction n2 publicKey).tryCatch signTransactionCatch) := by
  rcases h with rfl | ⟨-, k1, k2, h1, h2, -, -⟩
  · simp +contextual [serializeAndSign, OutRel, Call.mask, Protocol.forall_except,
      signTransactionCatch_lowEquiv, assembleTransaction_lowEquiv]
  · obtain ⟨r1, hr1⟩ := remove0x_string k1
    obtain ⟨r2, hr2⟩ := remove0x_string k2
    simp +contextual [serializeAndSign, h1, h2, hr1, hr2, OutRel, Call.mask, Protocol.forall_except,
      signTransactionCatch_lowEquiv, assembleTransaction_lowEquiv]

theorem confirmSignature_lowEquiv {n1 n2 : JsValue} (h : n1 = n2 ∨ NodeRel n1 n2) :
    LowEquiv ((confirmSignature origin transaction n1).tryCatch signTransactionCatch)
      ((confirmSignature origin transaction n2).tryCatch signTransactionCatch) := by
  have hs := serializeAndSign_lowEquiv transaction h
  rcases h with rfl | ⟨hpub, k1, k2, h1, h2, hk1, hk2⟩
  · simp +contextual [confirmSignature, OutRel, Call.mask, Protocol.forall_except,
      signTransactionCatch_lowEquiv, hs]
  · simp +contextual [confirmSignature, h1, h2, ← hpub, (assert_string k1).2 hk1, (assert_string k2).2 hk2, OutRel, Call.mask,
      Protocol.forall_except, signTransactionCatch_lowEquiv, hs]

theorem signTransactionTry_lowEquiv (keypairParams : JsValue) :
    LowEquiv ((signTransactionTry origin transaction keypairParams).tryCatch signTransactionCatch)
      ((signTransactionTry origin transaction keypairParams).tryCatch signTransactionCatch) := by
  simp +contextual [signTransactionTry, OutRel, Call.mask, Protocol.forall_except,
    signTransactionCatch_lowEquiv]
  exact fun _ _ _ h => confirmSignature_lowEquiv origin transaction h

theorem signTransaction_lowEquiv (params : JsValue) :
    LowEquiv (signTransaction origin params) (signTransaction origin params) := by
  unfold signTransaction
  split <;> simp [signTransactionTry_lowEquiv]

end Handler

/-- Two runs of `signTransaction` whose collaborators differ at most in the
private key of the node they decode, and whose `sign` answers the same message
alike whatever the key, show the same console output and the same calls (the key
passed to `sign` aside), and end the same. -/
theorem signTransaction_hides_private_key (origin : String) (params : JsValue) {env1 env2 : Env}
    (henv : env1.LowRelated env2) (past1 past2 : List Event)
    (hp : past1.map Event.observe = past2.map Event.observe) :
    ((signTransaction origin params).run env1 past1).events.map Event.observe =
        ((signTransaction origin params).run env2 past2).events.map Event.observe ∧
      ((signTransaction origin params).run env1 past1).result =
        ((signTransaction origin params).run env2 past2).result :=
  (signTransaction_lowEquiv origin params).run henv hp

theorem signTransaction_hides_private_key_test_params :
    (Env.ofAnswers (approvingAnswers "0x01")).LowRelated (Env.ofAnswers (approvingAnswers "0x02")) ∧
      (([] : List Event).map Event.observe = ([] : List Event).map Event.observe) ∧
      ((signTransaction "localhost" testSignParams).run (Env.ofAnswers (approvingAnswers "0x01"))
          []).events.map Event.observe =
        ((signTransaction "localhost" testSignParams).run (Env.ofAnswers (approvingAnswers "0x02"))
          []).events.map Event.observe ∧
      ((signTransaction "localhost" testSignParams).run (Env.ofAnswers (approvingAnswers "0x01"))
          []).result =
        ((signTransaction "localhost" testSignParams).run (Env.ofAnswers (approvingAnswers "0x02"))
          []).result :=
  have henv : (Env.ofAnswers (approvingAnswers "0x01")).LowRelated
      (Env.ofAnswers (approvingAnswers "0x02")) := by
    intro _ _ c1 c2 _ hc
    cases c1 <;> cases c2 <;> simp_all [Call.mask, OutRel, approvingAnswers, Env.ofAnswers]
    exact ⟨rfl, _, _, rfl, rfl, by decide, by decide⟩
  ⟨henv, rfl, signTransaction_hides_private_key "localhost" testSignParams henv [] [] rfl⟩

end SovereignSnap
