import SovereignSnap.Protocol.Sign
import SovereignSnap.Validation

/-! # What is signed and what is assembled

The data a signing run's codec and signer calls are made with, stated of the
calls so far so that it holds as the run goes on.
-/

namespace SovereignSnap

open Js JsValue Script Protocol

section Flow

variable (origin : String) (transaction : JsValue)

/-- The unsigned transaction built from the call message the codec serialized. -/
def Unsigned (calls : Calls) (u : JsValue) : Prop :=
  ∃ c b, transaction.get "call" = .ok c ∧ (.serializeCall c, .ok b) ∈ calls ∧
    unsignedTransactionOf transaction b = .ok u

/-- The key of the node the run derived, whose address the approved dialog showed. -/
def Shown (calls : Calls) (publicKey : String) : Prop :=
  ∃ e node a content v, (.fromJSON e, .ok node) ∈ calls ∧ nodePublicKey node = .ok publicKey ∧
    (.bechEncodePublicKey publicKey, .ok a) ∈ calls ∧
    confirmationPanel origin transaction a = .ok content ∧ (.dialog content, .ok v) ∈ calls ∧
    v.truthy

/-- The signed transaction assembled from the shown key, the unsigned transaction
and the signature over its serialization. -/
def Signed (calls : Calls) (s : JsValue) : Prop :=
  ∃ publicKey u m k sig, Shown origin transaction calls publicKey ∧ Unsigned transaction calls u ∧
    (.serializeUnsignedTransaction u, .ok m) ∈ calls ∧ (.sign m k, .ok sig) ∈ calls ∧
    signedTransactionOf publicKey u sig = .ok s

/-- What a codec or signer call was made with, against the calls of its run. -/
def FlowOk (calls : Calls) : Call × Except JsValue JsValue → Prop
  | (.serializeUnsignedTransaction u, _) => Unsigned transaction calls u
  | (.sign m _, _) => ∃ u, Unsigned transaction calls u ∧ (.serializeUnsignedTransaction u, .ok m) ∈ calls
  | (.serializeTransaction s, _) => Signed origin transaction calls s
  | _ => True

def Flow (calls : Calls) : Prop := ∀ x ∈ calls, FlowOk origin transaction calls x

/-- What a state of the signing machine holds of the calls before it. -/
def SignStage.facts : SignStage → Calls → Prop
  | .address n pk, pre => ∃ e, (.fromJSON e, .ok n) ∈ pre ∧ nodePublicKey n = .ok pk
  | .approval n pk content, pre => ∃ e a, (.fromJSON e, .ok n) ∈ pre ∧ nodePublicKey n = .ok pk ∧
      (.bechEncodePublicKey pk, .ok a) ∈ pre ∧ confirmationPanel origin transaction a = .ok content
  | .runtimeMsg _ pk c, pre => Shown origin transaction pre pk ∧ transaction.get "call" = .ok c
  | .unsigned _ pk u, pre => Shown origin transaction pre pk ∧ Unsigned transaction pre u
  | .signature pk u m _, pre => Shown origin transaction pre pk ∧ Unsigned transaction pre u ∧
      (.serializeUnsignedTransaction u, .ok m) ∈ pre
  | .signed s, pre => Signed origin transaction pre s
  | .release h, pre | .returned h, pre => ∃ s tx, Signed origin transaction pre s ∧
      (.serializeTransaction s, .ok tx) ∈ pre ∧ bytesToHex tx = .ok h
  | _, _ => True

/-- The data invariant of the signing machine. -/
def SignStage.flow (q : SignStage) (pre : Calls) : Prop :=
  Flow origin transaction pre ∧ q.facts origin transaction pre

end Flow

section Mono

variable {origin : String} {transaction : JsValue} {calls calls' : Calls}

theorem Unsigned.mono {u : JsValue} (h : Unsigned transaction calls u) (hs : calls ⊆ calls') :
    Unsigned transaction calls' u := by
  obtain ⟨c, b, hc, hm, hu⟩ := h
  exact ⟨c, b, hc, hs hm, hu⟩

theorem Shown.mono {publicKey : String} (h : Shown origin transaction calls publicKey)
    (hs : calls ⊆ calls') : Shown origin transaction calls' publicKey := by
  obtain ⟨e, node, a, content, v, h1, h2, h3, h4, h5, h6⟩ := h
  exact ⟨e, node, a, content, v, hs h1, h2, hs h3, h4, hs h5, h6⟩

theorem Signed.mono {s : JsValue} (h : Signed origin transaction calls s) (hs : calls ⊆ calls') :
    Signed origin transaction calls' s := by
  obtain ⟨publicKey, u, m, k, sig, h1, h2, h3, h4, h5⟩ := h
  exact ⟨publicKey, u, m, k, sig, h1.mono hs, h2.mono hs, hs h3, hs h4, h5⟩

theorem FlowOk.mono {x : Call × Except JsValue JsValue} (h : FlowOk origin transaction calls x)
    (hs : calls ⊆ calls') : FlowOk origin transaction calls' x := by
  match x, h with
  | (.serializeUnsignedTransaction _, _), h => exact Unsigned.mono h hs
  | (.sign _ _, _), ⟨u, hu, hm⟩ => exact ⟨u, hu.mono hs, hs hm⟩
  | (.serializeTransaction _, _), h => exact Signed.mono h hs
  | (.getBip32PublicKey _, _), _ | (.getBip32Entropy _, _), _ | (.fromJSON _, _), _
  | (.dialog _, _), _ | (.bechEncodePublicKey _, _), _ | (.serializeCall _, _), _
  | (.dealloc, _), _ => trivial

end Mono

section Step

variable {origin : String} {transaction keypairParams : JsValue} {pre : Calls}

theorem facts_flowOk {q : SignStage} {c : Call} (h : q.facts origin transaction pre)
    (hc : q.expect keypairParams = some c) (o : Except JsValue JsValue) :
    FlowOk origin transaction (pre ++ [(c, o)]) (c, o) := by
  have hs : pre ⊆ pre ++ [(c, o)] := List.subset_append_left _ _
  cases q <;> simp only [SignStage.expect, Option.some.injEq, reduceCtorEq] at hc <;> subst hc <;>
    simp only [FlowOk]
  case unsigned => exact h.2.mono hs
  case signature => exact ⟨_, h.2.1.mono hs, hs h.2.2⟩
  case signed => exact h.mono hs

@[simp] theorem facts_proceed {β : Type} (r : Except JsValue β) (f : β → SignStage) :
    (proceed r .cleanup f).facts origin transaction pre ↔
      ∀ b, r = .ok b → (f b).facts origin transaction pre := by
  cases r <;> simp [SignStage.facts]

/-- Each step of the signing machine keeps its data invariant. -/
theorem flow_step {q : SignStage} {c : Call} (o : Except JsValue JsValue)
    (h : q.flow origin transaction pre) (hc : q.expect keypairParams = some c) :
    (q.next origin transaction o).flow origin transaction (pre ++ [(c, o)]) := by
  have hs : pre ⊆ pre ++ [(c, o)] := List.subset_append_left _ _
  have hnew : (c, o) ∈ pre ++ [(c, o)] := by simp
  refine ⟨fun x hx => ?_, ?_⟩
  · rcases List.mem_append.1 hx with hx | hx
    · exact (h.1 x hx).mono hs
    · obtain rfl := List.mem_singleton.1 hx
      exact facts_flowOk h.2 hc o
  have hf := h.2
  cases o with
  | error e => rcases SignStage.next_error origin transaction keypairParams hc e with he | he <;>
      rw [he] <;> trivial
  | ok v =>
    cases q <;> simp only [SignStage.expect, Option.some.injEq, reduceCtorEq] at hc <;> subst hc <;>
      simp only [SignStage.next, facts_proceed] <;> simp only [SignStage.facts] at hf
    case node e => exact fun pk hpk => ⟨e, hnew, hpk⟩
    case address n pk =>
      obtain ⟨e, he, hn⟩ := hf
      exact fun content hp => ⟨e, v, hs he, hn, hnew, hp⟩
    case approval n pk content =>
      obtain ⟨e, a, he, hn, hb, hp⟩ := hf
      split
      · exact (facts_proceed _ _).2 fun c hc => ⟨⟨e, n, a, content, v, hs he, hn, hs hb, hp, hnew, ‹_›⟩, hc⟩
      · trivial
    case runtimeMsg n pk c => exact fun u hu => ⟨hf.1.mono hs, c, v, hf.2, hnew, hu⟩
    case unsigned n pk u => exact fun _ _ => ⟨hf.1.mono hs, hf.2.mono hs, hnew⟩
    case signature pk u m k => exact fun s hs' => ⟨pk, u, m, k, v, hf.1.mono hs, hf.2.1.mono hs, hs hf.2.2, hnew, hs'⟩
    case signed s => exact fun h hh => ⟨s, v, hf.mono hs, hnew, hh⟩
    case release h =>
      obtain ⟨s, tx, h1, h2, h3⟩ := hf
      exact ⟨s, tx, h1.mono hs, hs h2, h3⟩
    all_goals trivial

end Step

section Validated

variable {origin : String} {transaction : JsValue} {calls : Calls}
  (hT : TransactionShape transaction) (hkeys : (transaction.ownProps.map Prod.fst).Nodup)
include hT hkeys

theorem unsigned_keys_nodup (runtimeMsg : JsValue) :
    ("signature" :: "pub_key" :: (transaction.ownProps.filter (·.1 ≠ "call") ++
      [("runtime_msg", runtimeMsg)]).map Prod.fst).Nodup := by
  have hout : ∀ k ∉ ["call", "chain_id", "max_priority_fee_bips", "max_fee", "gas_limit", "nonce"],
      ∀ x, (k, x) ∉ transaction.ownProps := fun k hk x hm => hk (hT.keys _ hm)
  have hnd : ((transaction.ownProps.filter fun p => !decide (p.1 = "call")).map Prod.fst).Nodup :=
    hkeys.sublist ((List.filter_sublist _).map _)
  simp [List.nodup_append, hnd, hout "signature" (by decide), hout "pub_key" (by decide),
    hout "runtime_msg" (by decide)]

theorem Unsigned.eq {u : JsValue} (h : Unsigned transaction calls u) :
    ∃ b runtimeMsg, (.serializeCall (transaction.member "call"), .ok b) ∈ calls ∧
      arrayFrom b = .ok runtimeMsg ∧
      u = .object (transaction.ownProps.filter (·.1 ≠ "call") ++ [("runtime_msg", runtimeMsg)]) := by
  obtain ⟨c, b, hc, hm, hu⟩ := h
  rw [get_of_isObject hT.isObject, Except.ok.injEq] at hc
  cases hb : arrayFrom b with
  | error e => simp [unsignedTransactionOf, hb] at hu
  | ok runtimeMsg =>
      have hrm : "runtime_msg" ∉ transaction.ownProps.map Prod.fst := fun h => by
        obtain ⟨p, hp, hp1⟩ := List.mem_map.1 h
        exact absurd (hp1 ▸ hT.keys p hp) (by decide)
      refine ⟨b, runtimeMsg, hc ▸ hm, hb, ?_⟩
      rw [unsignedTransactionOf_eq transaction hT.isObject hkeys hrm hb] at hu
      exact (Except.ok.inj hu).symm

theorem Signed.eq {s : JsValue} (h : Signed origin transaction calls s) :
    ∃ publicKey u m k signature msgSig, Shown origin transaction calls publicKey ∧
      (.serializeUnsignedTransaction u, .ok m) ∈ calls ∧ (.sign m k, .ok signature) ∈ calls ∧
      arrayFrom signature = .ok msgSig ∧ s = .object (("signature", .object [("msg_sig", msgSig)]) ::
        ("pub_key", .string publicKey) :: u.ownProps) ∧
      s.ownProps.filter (fun p => p.1 ≠ "signature" ∧ p.1 ≠ "pub_key") = u.ownProps := by
  obtain ⟨publicKey, u, m, k, sig, hshown, hu, hm, hsign, hs⟩ := h
  obtain ⟨b, runtimeMsg, -, -, rfl⟩ := hu.eq hT hkeys
  have hnd := unsigned_keys_nodup hT hkeys runtimeMsg
  cases hsig : arrayFrom sig with
  | error e => simp [signedTransactionOf, hsig] at hs
  | ok msgSig =>
      rw [signedTransactionOf_eq hnd hsig, Except.ok.injEq] at hs
      subst hs
      refine ⟨publicKey, _, m, k, sig, msgSig, hshown, hm, hsign, hsig, rfl, ?_⟩
      simp only [ownProps, List.filter_cons, ne_eq, not_true_eq_false, false_and, decide_False,
        and_false, cond_false]
      refine List.filter_eq_self.2 fun p hp => ?_
      have hp1 := List.mem_map_of_mem Prod.fst hp
      simp only [List.nodup_cons, List.mem_cons, not_or] at hnd
      simp only [decide_eq_true_eq]
      exact ⟨fun h => hnd.1.2 (h ▸ hp1), fun h => hnd.2.1 (h ▸ hp1)⟩

end Validated

/-- The data of a signing run, as its calls and its result show them. -/
structure Assembly (origin : String) (transaction : JsValue) (calls : Calls)
    (result : Except JsValue JsValue) : Prop where
  unsigned : ∀ u o, (.serializeUnsignedTransaction u, o) ∈ calls → ∃ b runtimeMsg,
    (.serializeCall (transaction.member "call"), .ok b) ∈ calls ∧ arrayFrom b = .ok runtimeMsg ∧
    u = .object (transaction.ownProps.filter (·.1 ≠ "call") ++ [("runtime_msg", runtimeMsg)])
  message : ∀ m k o, (.sign m k, o) ∈ calls → ∃ u, (.serializeUnsignedTransaction u, .ok m) ∈ calls
  signed : ∀ s o, (.serializeTransaction s, o) ∈ calls → ∃ publicKey u m k signature msgSig,
    Shown origin transaction calls publicKey ∧ (.serializeUnsignedTransaction u, .ok m) ∈ calls ∧
    (.sign m k, .ok signature) ∈ calls ∧ arrayFrom signature = .ok msgSig ∧
    s = .object (("signature", .object [("msg_sig", msgSig)]) :: ("pub_key", .string publicKey) ::
      u.ownProps) ∧
    s.ownProps.filter (fun p => p.1 ≠ "signature" ∧ p.1 ≠ "pub_key") = u.ownProps
  returned : ∀ r, result = .ok r → ∃ s tx h, r = .string h ∧
    (.serializeTransaction s, .ok tx) ∈ calls ∧ bytesToHex tx = .ok h

/-- Every codec and signer call of a signing run is made with data of its run. -/
theorem signTransaction_flow (origin : String) (params : JsValue) (env : Env) (past : List Event) :
    Flow origin (params.member "transaction")
      (Event.calls ((signTransaction origin params).run env past).events) := by
  obtain ⟨-, -, ⟨hflow, -⟩, -⟩ := Follows.run_invariant _
    (SignStage.flow origin (params.member "transaction")) (fun _ _ _ o h hc => flow_step o h hc)
    (signTransaction_follows_member origin params) ⟨fun _ h => by simp at h, trivial⟩ env past
  exact hflow

theorem signTransaction_assembly (origin : String) (params : JsValue) (env : Env)
    (past : List Event) (hp : SignParamsShape params)
    (hkeys : ((params.member "transaction").ownProps.map Prod.fst).Nodup) :
    Assembly origin (params.member "transaction")
      (Event.calls ((signTransaction origin params).run env past).events)
      ((signTransaction origin params).run env past).result := by
  obtain ⟨-, q, ⟨hflow, hfacts⟩, hres⟩ := Follows.run_invariant _
    (SignStage.flow origin (params.member "transaction")) (fun _ _ _ o h hc => flow_step o h hc)
    (signTransaction_follows_member origin params) ⟨fun _ h => by simp at h, trivial⟩ env past
  refine ⟨fun u o hx => (hflow _ hx).eq hp.transaction hkeys,
    fun m k o hx => (hflow _ hx).imp fun _ h => h.2,
    fun s o hx => Signed.eq hp.transaction hkeys (hflow _ hx), fun r hr => ?_⟩
  rw [hr, signProtocol_result] at hres
  cases q <;> simp only [SignStage.result] at hres
  obtain ⟨s, tx, -, hm, hh⟩ := hfacts
  exact ⟨s, tx, _, Except.ok.inj hres, hm, hh⟩

/-- The dialog of a signing run shows the panel of the request's transaction and
of the address of the node the run decoded. -/
theorem signTransaction_dialog (origin : String) (params : JsValue) (env : Env) (past : List Event)
    (content : List Component) (o : Except JsValue JsValue)
    (hd : (.dialog content, o) ∈ Event.calls ((signTransaction origin params).run env past).events) :
    ∃ e node publicKey a,
      (.fromJSON e, .ok node) ∈ Event.calls ((signTransaction origin params).run env past).events ∧
      nodePublicKey node = .ok publicKey ∧
      (.bechEncodePublicKey publicKey, .ok a) ∈ Event.calls ((signTransaction origin params).run env past).events ∧
      confirmationPanel origin (params.member "transaction") a = .ok content := by
  obtain ⟨hcalls, -⟩ := Follows.run_invariant _
    (SignStage.flow origin (params.member "transaction")) (fun _ _ _ o h hc => flow_step o h hc)
    (signTransaction_follows_member origin params) ⟨fun _ h => by simp at h, trivial⟩ env past
  obtain ⟨i, hi⟩ := List.mem_iff_getElem?.1 hd
  obtain ⟨q, hq, -, hf⟩ := hcalls i _ hi
  cases q <;> simp only [signProtocol_expect, SignStage.expect, Option.some.injEq,
    reduceCtorEq, Call.dialog.injEq] at hq
  subst hq
  obtain ⟨e, a, hn, hk, hb, hpanel⟩ := hf
  exact ⟨e, _, _, a, List.mem_of_mem_take hn, hk, List.mem_of_mem_take hb, hpanel⟩

/-- Signing parameters in the shape of the snap's own test: key id 0, chain 4321,
maximum fee 10000, an empty gas limit. -/
def testSignParams : JsValue :=
  .object [("keyId", .number (.ofNat 0)), ("transaction", .object [("call", .object [("bank", .object [])]),
    ("nonce", .number (.ofNat 0)), ("chain_id", .number (.ofNat 4321)),
    ("max_priority_fee_bips", .number (.ofNat 0)), ("max_fee", .number (.ofNat 10000)),
    ("gas_limit", .array [])])]

/-- Collaborators that approve and decode the entropy to a node with the given private key. -/
def approvingAnswers (privateKey : String) : Call → Except JsValue JsValue
  | .getBip32Entropy _ => .ok (.string "entropy")
  | .fromJSON _ => .ok (.object [("privateKey", .string privateKey), ("publicKey", .string "0x00abcd")])
  | .bechEncodePublicKey _ => .ok (.string "sov1abcd")
  | .dialog _ => .ok (.bool true)
  | .sign _ _ => .ok (.bytes [1, 2])
  | .serializeTransaction _ => .ok (.bytes [3])
  | _ => .ok (.bytes [])

theorem signTransaction_assembly_test_params :
    SignParamsShape testSignParams ∧
      ((testSignParams.member "transaction").ownProps.map Prod.fst).Nodup ∧
      Assembly "localhost" (testSignParams.member "transaction")
        (Event.calls ((signTransaction "localhost" testSignParams).run
          (Env.ofAnswers (approvingAnswers "0x01")) []).events)
        ((signTransaction "localhost" testSignParams).run (Env.ofAnswers (approvingAnswers "0x01")) []).result :=
  have hp := (validate_signTransactionStruct testSignParams).1 ⟨testSignParams, by decide⟩
  have hkeys : ((testSignParams.member "transaction").ownProps.map Prod.fst).Nodup := by decide
  ⟨hp, hkeys, signTransaction_assembly _ _ _ _ hp hkeys⟩

end SovereignSnap
