import SovereignSnap.Protocol.Assembly
import SovereignSnap.Protocol.Order

/-! # `getAddress` and `signTransaction` agree on the account

Against an honest custody gateway, the address `getAddress` returns is the one
the signing dialog shows, and the signed transaction carries its key.
-/

namespace SovereignSnap

open Js JsValue Script Protocol

/-! ## What a run of `getAddress` holds of its calls -/

/-- What a state of the address machine holds of the calls before it. -/
def AddressStage.facts (keypairParams : JsValue) : AddressStage → Calls → Prop
  | .address pk, pre => ∃ r, (.getBip32PublicKey keypairParams, .ok r) ∈ pre ∧
      cleanPublicKeyResponse r = .ok pk
  | .release a, pre | .returned a, pre => ∃ r pk, (.getBip32PublicKey keypairParams, .ok r) ∈ pre ∧
      cleanPublicKeyResponse r = .ok pk ∧ (.bechEncodePublicKey pk, .ok a) ∈ pre
  | _, _ => True

theorem AddressStage.facts_step {keypairParams : JsValue} {q : AddressStage} {pre : Calls}
    {c : Call} (o : Except JsValue JsValue) (h : q.facts keypairParams pre)
    (hc : q.expect keypairParams = some c) :
    (q.next o).facts keypairParams (pre ++ [(c, o)]) := by
  have hs : pre ⊆ pre ++ [(c, o)] := List.subset_append_left _ _
  have hnew : (c, o) ∈ pre ++ [(c, o)] := by simp
  cases q <;> simp only [expect, Option.some.injEq, reduceCtorEq] at hc <;> subst hc <;>
    cases o <;> simp only [next] <;> try trivial
  case publicKey.ok r =>
    cases hr : cleanPublicKeyResponse r <;> simp only [proceed]
    · trivial
    · exact ⟨r, hnew, hr⟩
  case address.ok pk a =>
    obtain ⟨r, hr, hclean⟩ := h
    exact ⟨r, pk, hs hr, hclean, hnew⟩
  case release.ok a _ =>
    obtain ⟨r, pk, hr, hclean, hb⟩ := h
    exact ⟨r, pk, hs hr, hclean, hs hb⟩

/-- The address `getAddress` returns is the encoding of the cleaned public key. -/
theorem getAddress_returned (params : JsValue) (env : Env) (past : List Event) (address : JsValue)
    (hr : ((getAddress params).run env past).result = .ok address) :
    ∃ r pk, (.getBip32PublicKey (getKeypairParams (params.member "keyId")), .ok r) ∈
        Event.calls ((getAddress params).run env past).events ∧
      cleanPublicKeyResponse r = .ok pk ∧
      (.bechEncodePublicKey pk, .ok address) ∈ Event.calls ((getAddress params).run env past).events := by
  obtain ⟨-, q, hq, hres⟩ := Follows.run_invariant _ (AddressStage.facts _)
    (fun _ _ _ o h hc => AddressStage.facts_step o h hc) (getAddress_follows_member params) trivial env past
  rw [hr, addressProtocol_result] at hres
  cases q <;> simp only [AddressStage.result] at hres
  obtain rfl := Except.ok.inj hres
  exact hq

/-! ## The key of a signing run -/

/-- In a signing run, the node is decoded from the entropy of the request's path. -/
theorem signTransaction_fromJSON (origin : String) (params : JsValue) (env : Env) (past : List Event)
    (e n : JsValue) (h : (.fromJSON e, .ok n) ∈ Event.calls ((signTransaction origin params).run env past).events) :
    (.getBip32Entropy (getKeypairParams (params.member "keyId")), .ok e) ∈
      Event.calls ((signTransaction origin params).run env past).events := by
  obtain ⟨hcalls, -⟩ := Follows.run_invariant _ (SignStage.history _)
    (fun _ _ _ o h hc => history_step origin _ o h hc) (signTransaction_follows_member origin params)
    rfl env past
  obtain ⟨i, hi⟩ := List.mem_iff_getElem?.1 h
  obtain ⟨q, hq, hh⟩ := hcalls i _ hi
  cases q <;> simp only [signProtocol_expect, SignStage.expect, Option.some.injEq,
    reduceCtorEq, Call.fromJSON.injEq] at hq
  subst hq
  simp only [SignStage.history] at hh
  exact List.mem_of_mem_take (hh ▸ List.mem_singleton_self _)

theorem nodePublicKey_eq {node : JsValue} {publicKey : String}
    (h : nodePublicKey node = .ok publicKey) :
    ∃ r, node.get "publicKey" = .ok r ∧ cleanPublicKeyResponse r = .ok publicKey := by
  unfold nodePublicKey at h
  cases hp : node.get "privateKey" with
  | error e => simp [hp] at h
  | ok p =>
    cases ha : assert p with
    | error e => simp [hp, ha] at h
    | ok u =>
      cases hk : node.get "publicKey" with
      | error e => simp [hp, ha, hk] at h
      | ok r => exact ⟨r, rfl, by simpa [hp, ha, hk] using h⟩

/-! ## Agreement -/

/-- A custody gateway that honours its contract: the public key it returns for a
path is the public key of the node its entropy for that path decodes to. -/
def CustodyHonest (answer : Call → Except JsValue JsValue) : Prop :=
  ∀ p r e node, answer (.getBip32PublicKey p) = .ok r → answer (.getBip32Entropy p) = .ok e →
    answer (.fromJSON e) = .ok node → node.get "publicKey" = .ok r

/-- The address `getAddress` returns for a key id is the one the signing dialog for
the same key id shows, and the signed transaction carries the key it encodes. -/
theorem address_agreement (answer : Call → Except JsValue JsValue) (honest : CustodyHonest answer)
    (origin : String) (addressParams signParams : JsValue)
    (hkey : addressParams.member "keyId" = signParams.member "keyId")
    (hp : SignParamsShape signParams)
    (hkeys : ((signParams.member "transaction").ownProps.map Prod.fst).Nodup)
    (past past' : List Event) (address : JsValue)
    (hr : ((getAddress addressParams).run (Env.ofAnswers answer) past).result = .ok address) :
    ∃ publicKey, (.bechEncodePublicKey publicKey, .ok address) ∈
        Event.calls ((getAddress addressParams).run (Env.ofAnswers answer) past).events ∧
      (∀ content o, (.dialog content, o) ∈
          Event.calls ((signTransaction origin signParams).run (Env.ofAnswers answer) past').events →
        confirmationPanel origin (signParams.member "transaction") address = .ok content) ∧
      (∀ s o, (.serializeTransaction s, o) ∈
          Event.calls ((signTransaction origin signParams).run (Env.ofAnswers answer) past').events →
        s.member "pub_key" = .string publicKey) := by
  obtain ⟨r, pk, hpub, hclean, hbech⟩ := getAddress_returned addressParams _ past address hr
  have ans := calls_ofAnswers answer (getAddress addressParams) past
  have ansS := calls_ofAnswers answer (signTransaction origin signParams) past'
  have key : ∀ e n pk', (.fromJSON e, .ok n) ∈
      Event.calls ((signTransaction origin signParams).run (Env.ofAnswers answer) past').events →
      nodePublicKey n = .ok pk' → pk' = pk := fun e n pk' hn hk => by
    have he := signTransaction_fromJSON origin signParams _ past' e n hn
    rw [← hkey] at he
    obtain ⟨r', hr', hclean'⟩ := nodePublicKey_eq hk
    rw [honest _ r e n (ans _ hpub).symm (ansS _ he).symm (ansS _ hn).symm,
      Except.ok.injEq] at hr'
    subst hr'
    exact Except.ok.inj (hclean'.symm.trans hclean)
  refine ⟨pk, hbech, fun content o hd => ?_, fun s o hs => ?_⟩
  · obtain ⟨e, n, pk', a, hn, hk, hb, hpanel⟩ := signTransaction_dialog origin signParams _ past' content o hd
    obtain rfl := key e n pk' hn hk
    rwa [Except.ok.inj ((ans _ hbech).trans (ansS _ hb).symm)]
  · obtain ⟨pk', u, m, k, sig, msgSig, ⟨e, n, -, -, -, hn, hk, -⟩, -, -, -, rfl, -⟩ :=
      Signed.eq hp.transaction hkeys (signTransaction_flow origin signParams _ past' _ hs)
    obtain rfl := key e n pk' hn hk
    simp [member, lookup]

/-- Collaborators whose key request and decoded node both give the key `0x00abcd`,
and that approve the dialog and sign. -/
def agreeingAnswers : Call → Except JsValue JsValue
  | .getBip32PublicKey _ => .ok (.string "0x00abcd")
  | .getBip32Entropy _ => .ok (.string "entropy")
  | .fromJSON _ => .ok (.object [("privateKey", .string "0x01"), ("publicKey", .string "0x00abcd")])
  | .bechEncodePublicKey _ => .ok (.string "sov1abcd")
  | .dialog _ => .ok (.bool true)
  | .sign _ _ => .ok (.bytes [1, 2])
  | .serializeTransaction _ => .ok (.bytes [3])
  | _ => .ok (.bytes [])

theorem address_agreement_test_params :
    CustodyHonest agreeingAnswers ∧ keyIdZeroParams.member "keyId" = testSignParams.member "keyId" ∧
      SignParamsShape testSignParams ∧
      ((testSignParams.member "transaction").ownProps.map Prod.fst).Nodup ∧
      ((getAddress keyIdZeroParams).run (Env.ofAnswers agreeingAnswers) []).result =
        .ok (.string "sov1abcd") ∧
      ∃ publicKey, (.bechEncodePublicKey publicKey, .ok (.string "sov1abcd")) ∈
          Event.calls ((getAddress keyIdZeroParams).run (Env.ofAnswers agreeingAnswers) []).events ∧
        (∀ content o, (.dialog content, o) ∈ Event.calls ((signTransaction "localhost"
            testSignParams).run (Env.ofAnswers agreeingAnswers) []).events →
          confirmationPanel "localhost" (testSignParams.member "transaction") (.string "sov1abcd") =
            .ok content) ∧
        (∀ s o, (.serializeTransaction s, o) ∈ Event.calls ((signTransaction "localhost"
            testSignParams).run (Env.ofAnswers agreeingAnswers) []).events →
          s.member "pub_key" = .string publicKey) :=
  have honest : CustodyHonest agreeingAnswers := by
    intro p r e node h1 _ h3
    simp only [agreeingAnswers, Except.ok.injEq] at h1 h3
    subst h1 h3
    rfl
  have hkey : keyIdZeroParams.member "keyId" = testSignParams.member "keyId" := by decide
  have hp := (validate_signTransactionStruct testSignParams).1 ⟨testSignParams, by decide⟩
  have hkeys : ((testSignParams.member "transaction").ownProps.map Prod.fst).Nodup := by decide
  have hr : ((getAddress keyIdZeroParams).run (Env.ofAnswers agreeingAnswers) []).result =
      .ok (.string "sov1abcd") := by decide
  ⟨honest, hkey, hp, hkeys, hr, address_agreement agreeingAnswers honest "localhost" _ _ hkey hp hkeys
    [] [] _ hr⟩

end SovereignSnap
