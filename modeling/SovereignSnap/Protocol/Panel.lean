import SovereignSnap.Protocol.Assembly
import SovereignSnap.Js.Printing

/-! # What the operator sees

Two transactions `TransactionStruct` admits that give one confirmation panel have
the same JSON text at every key; their key order is not on the panel.
-/

namespace SovereignSnap

open Js JsValue Script Protocol

/-! ## Numbers in a joined list -/

theorem join_number_data (n : JsNumber) (vs : List JsValue) :
    (join ", " (.number n :: vs)).data =
      n.toString.data ++ if vs = [] then [] else ',' :: ' ' :: (join ", " vs).data := by
  cases vs with
  | nil => simp [join, toStr]
  | cons v vs => rw [join] <;> simp [toStr]

theorem join_number_ne_empty (n : JsNumber) (vs : List JsValue) : join ", " (.number n :: vs) ≠ "" :=
  fun h => n.toString_ne_nil (List.append_eq_nil.1 (join_number_data n vs ▸ congrArg String.data h)).1

theorem serialize_number_of_toString {x y : JsNumber} (h : x.toString = y.toString) :
    serialize (.number x) = serialize (.number y) := by
  simp [serialize, h, JsNumber.isFinite_eq_of_toString h]

theorem serializeElements_of_join {xs ys : List JsValue} (hx : ∀ x ∈ xs, IsNumber x)
    (hy : ∀ y ∈ ys, IsNumber y) (h : join ", " xs = join ", " ys) :
    serializeElements xs = serializeElements ys := by
  have tail : ∀ vs : List JsValue,
      ∀ x ∈ (if vs = [] then [] else ',' :: ' ' :: (join ", " vs).data).head?, x = ',' := by
    intro vs; split <;> simp
  induction xs generalizing ys with
  | nil =>
    cases ys with
    | nil => rfl
    | cons y ys =>
      obtain ⟨m, rfl, -⟩ := hy y (List.mem_cons_self _ _)
      exact absurd h.symm (join_number_ne_empty m ys)
  | cons x xs ih =>
    obtain ⟨n, rfl, hn⟩ := hx x (List.mem_cons_self _ _)
    cases ys with
    | nil => exact absurd h (join_number_ne_empty n xs)
    | cons y ys =>
      obtain ⟨m, rfl, hm⟩ := hy y (List.mem_cons_self _ _)
      have hd := congrArg String.data h
      rw [join_number_data, join_number_data] at hd
      obtain ⟨hnm, htail⟩ := append_eq_append_at (JsNumber.not_mem_toString hn (by decide) (by decide))
        (JsNumber.not_mem_toString hm (by decide) (by decide)) (tail xs) (tail ys) hd
      simp only [serializeElements, serialize_number_of_toString (String.ext hnm)]
      congr 1
      split_ifs at htail with h1 h2 h2
      · subst h1 h2; rfl
      · simp only [List.cons.injEq, true_and] at htail
        exact ih (fun v hv => hx v (List.mem_cons_of_mem _ hv)) (fun v hv => hy v (List.mem_cons_of_mem _ hv))
          (String.ext htail)

theorem join_ne_notSet {xs : List JsValue} (hx : ∀ x ∈ xs, IsNumber x) : join ", " xs ≠ "Not Set" := by
  cases xs with
  | nil => decide
  | cons x xs =>
    obtain ⟨n, rfl, hn⟩ := hx x (List.mem_cons_self _ _)
    obtain ⟨c, cs, hc⟩ := List.exists_cons_of_ne_nil n.toString_ne_nil
    intro h
    have hd := congrArg String.data h
    rw [join_number_data, hc] at hd
    have hN : 'N' ∉ n.toString.data := JsNumber.not_mem_toString hn (by decide) (by decide)
    simp only [List.cons_append, show "Not Set".data = 'N' :: "ot Set".data from rfl, List.cons.injEq] at hd
    exact hN (hc ▸ hd.1 ▸ List.mem_cons_self _ _)

/-! ## The panel of an admitted transaction -/

theorem TransactionShape.object {T : JsValue} (hT : TransactionShape T) : ∃ props, T = .object props := by
  have hn := hT.nonce
  have hk := hT.keys
  have ho := hT.isObject
  have h0 : indexKey 0 ∉ ["call", "chain_id", "max_priority_fee_bips", "max_fee", "gas_limit", "nonce"] := by
    decide
  cases T with
  | object props => exact ⟨props, rfl⟩
  | array vs =>
    cases vs with
    | nil => simp [IsNumber, member, lookup, indexed] at hn
    | cons v vs => exact absurd (hk (indexKey 0, v) (by simp [ownProps, indexed, List.range_succ_eq_map])) h0
  | bytes bs =>
    cases bs with
    | nil => simp [IsNumber, member, lookup, indexed] at hn
    | cons b bs => exact absurd (hk (indexKey 0, byteValue b) (by simp [ownProps, indexed, List.range_succ_eq_map])) h0
  | _ => simp_all [IsNumber, member, JsValue.isObject]

theorem stringify_of_isObject {v : JsValue} (h : v.isObject) : ∃ s, v.stringify = some s := by
  cases v <;> simp_all [isObject, stringify, serialize]

theorem fieldString_of_isNumber {T : JsValue} (hT : T.isObject) {key : String} (h : IsNumber (T.member key)) :
    fieldString T key = .ok (.string (T.member key).toStr) := by
  obtain ⟨n, hn, -⟩ := h
  simp [fieldString, get_of_isObject hT, hn, callToString]

theorem confirmationPanel_eq {origin : String} {T a : JsValue} {content : List Component}
    (hT : TransactionShape T) (h : confirmationPanel origin T a = .ok content) :
    ∃ call from_ gas, (T.member "call").stringify = some call ∧ a = .string from_ ∧
      (T.member "gas_limit" = .undefined ∧ gas = "Not Set" ∨
        ∃ vs, T.member "gas_limit" = .array vs ∧ (∀ x ∈ vs, IsNumber x) ∧ gas = join ", " vs) ∧
      content = [.heading "Signature request", .text "The application at:", .copyable origin,
        .text "is requesting a signature for the call message:", .copyable call,
        .text "from address:", .copyable from_, .text "with nonce:", .copyable (T.member "nonce").toStr,
        .text "with chainId:", .copyable (T.member "chain_id").toStr,
        .text "with maxPriorityFeeBips:", .copyable (T.member "max_priority_fee_bips").toStr,
        .text "with maxFee:", .copyable (T.member "max_fee").toStr, .text "with gasLimit:", .copyable gas] := by
  obtain ⟨call, hc⟩ := stringify_of_isObject hT.call
  obtain ⟨gas, hgas, hg⟩ : ∃ gas, (if (T.member "gas_limit").truthy then callJoin (T.member "gas_limit") ", "
      else pure "Not Set") = (.ok gas : Except JsValue String) ∧ (T.member "gas_limit" = .undefined ∧ gas = "Not Set" ∨
        ∃ vs, T.member "gas_limit" = .array vs ∧ (∀ x ∈ vs, IsNumber x) ∧ gas = join ", " vs) := by
    rcases hT.gasLimit with hg | ⟨vs, hg, hvs⟩
    · exact ⟨_, by simp [hg, truthy]; rfl, .inl ⟨hg, rfl⟩⟩
    · exact ⟨_, by simp [hg, truthy, callJoin], .inr ⟨vs, hg, hvs, rfl⟩⟩
  cases ha : copyable a with
  | error e => simp [confirmationPanel, get_of_isObject hT.isObject, jsonValue, hc, ha] at h
  | ok c =>
    obtain ⟨from_, rfl, rfl⟩ := copyable_eq_ok ha
    refine ⟨call, from_, gas, hc, rfl, hg, ?_⟩
    simp [confirmationPanel, get_of_isObject hT.isObject, fieldString_of_isNumber hT.isObject hT.nonce,
      fieldString_of_isNumber hT.isObject hT.chainId, fieldString_of_isNumber hT.isObject hT.maxFee,
      fieldString_of_isNumber hT.isObject hT.maxPriorityFeeBips, jsonValue, hc, hgas] at h
    exact h.symm

theorem stringify_of_toStr {v w : JsValue} (hv : IsNumber v) (hw : IsNumber w) (h : v.toStr = w.toStr) :
    v.stringify = w.stringify := by
  obtain ⟨x, rfl, -⟩ := hv
  obtain ⟨y, rfl, -⟩ := hw
  simp only [stringify, serialize_number_of_toString h]

theorem member_of_keysWithin {T : JsValue} (hT : TransactionShape T) {key : String}
    (hk : key ∉ ["call", "chain_id", "max_priority_fee_bips", "max_fee", "gas_limit", "nonce"]) :
    T.member key = .undefined := by
  obtain ⟨props, rfl⟩ := hT.object
  simp only [member, lookup_eq_none props fun p hp (h : p.1 = key) => hk (h ▸ hT.keys p hp), Option.getD_none]

theorem member_stringify_of_panel {o1 o2 : String} {T1 T2 a1 a2 : JsValue} {content : List Component}
    (hT1 : TransactionShape T1) (hT2 : TransactionShape T2)
    (h1 : confirmationPanel o1 T1 a1 = .ok content) (h2 : confirmationPanel o2 T2 a2 = .ok content)
    (key : String) : (T1.member key).stringify = (T2.member key).stringify := by
  obtain ⟨c1, f1, g1, hc1, -, hg1, rfl⟩ := confirmationPanel_eq hT1 h1
  obtain ⟨c2, f2, g2, hc2, -, hg2, h⟩ := confirmationPanel_eq hT2 h2
  simp only [List.cons.injEq, Component.copyable.injEq, true_and, and_true] at h
  obtain ⟨-, rfl, -, hnonce, hchain, hfee, hmax, rfl⟩ := h
  by_cases hk : key ∈ ["call", "chain_id", "max_priority_fee_bips", "max_fee", "gas_limit", "nonce"]
  · simp only [List.mem_cons, List.mem_singleton, List.not_mem_nil, or_false] at hk
    rcases hk with rfl | rfl | rfl | rfl | rfl | rfl
    · rw [hc1, hc2]
    · exact stringify_of_toStr hT1.chainId hT2.chainId hchain
    · exact stringify_of_toStr hT1.maxPriorityFeeBips hT2.maxPriorityFeeBips hfee
    · exact stringify_of_toStr hT1.maxFee hT2.maxFee hmax
    · rcases hg1 with ⟨hu1, rfl⟩ | ⟨vs1, hu1, hn1, rfl⟩ <;>
        rcases hg2 with ⟨hu2, hg⟩ | ⟨vs2, hu2, hn2, hg⟩
      · rw [hu1, hu2]
      · exact (join_ne_notSet hn2 hg.symm).elim
      · exact (join_ne_notSet hn1 hg).elim
      · simp only [hu1, hu2, stringify, serialize, serializeElements_of_join hn1 hn2 hg]
    · exact stringify_of_toStr hT1.nonce hT2.nonce hnonce
  · rw [member_of_keysWithin hT1 hk, member_of_keysWithin hT2 hk]

/-! ## The unsigned transaction -/

section Unsigned

variable {transaction : JsValue} (hT : TransactionShape transaction) (runtimeMsg : JsValue)
include hT

theorem unsigned_member {key : String} (hk : key ≠ "runtime_msg") :
    (JsValue.object (transaction.ownProps.filter (·.1 ≠ "call") ++ [("runtime_msg", runtimeMsg)])).member key =
      if key = "call" then .undefined else transaction.member key := by
  obtain ⟨props, rfl⟩ := hT.object
  have hrm : lookup key [("runtime_msg", runtimeMsg)] = none := by simp [lookup, Ne.symm hk]
  simp only [member, ownProps, lookup_append, hrm, Option.or_none]
  split
  · subst key
    rw [lookup_eq_none _ fun p hp => by simpa using (List.mem_filter.1 hp).2]
    rfl
  · rw [lookup_filter_of_ne ‹_›]

theorem unsigned_runtime_msg :
    (JsValue.object (transaction.ownProps.filter (·.1 ≠ "call") ++ [("runtime_msg", runtimeMsg)])).member
      "runtime_msg" = runtimeMsg := by
  have hkeys : ∀ p ∈ transaction.ownProps.filter (·.1 ≠ "call"), p.1 ≠ "runtime_msg" := fun p hp h =>
    absurd (h ▸ hT.keys p (List.mem_of_mem_filter hp)) (by decide)
  simp only [member, lookup_append, lookup_eq_none _ hkeys]
  simp [lookup]

end Unsigned

/-! ## Two approved runs with one panel -/

/-- Two approved signing runs that showed one panel hand the codec unsigned
transactions with the same JSON text at every key but the runtime message, and
each runtime message is `Array.from` of the codec's answer for a call message of
one JSON text. -/
theorem same_panel_same_unsigned_json (origin1 origin2 : String) (params1 params2 : JsValue)
    (hp1 : SignParamsShape params1) (hp2 : SignParamsShape params2)
    (hkeys1 : ((params1.member "transaction").ownProps.map Prod.fst).Nodup)
    (hkeys2 : ((params2.member "transaction").ownProps.map Prod.fst).Nodup)
    (env1 env2 : Env) (past1 past2 : List Event) (content : List Component) (o1 o2 : Except JsValue JsValue)
    (hd1 : (.dialog content, o1) ∈ Event.calls ((signTransaction origin1 params1).run env1 past1).events)
    (hd2 : (.dialog content, o2) ∈ Event.calls ((signTransaction origin2 params2).run env2 past2).events)
    (u1 u2 : JsValue) (r1 r2 : Except JsValue JsValue)
    (hu1 : (.serializeUnsignedTransaction u1, r1) ∈
      Event.calls ((signTransaction origin1 params1).run env1 past1).events)
    (hu2 : (.serializeUnsignedTransaction u2, r2) ∈
      Event.calls ((signTransaction origin2 params2).run env2 past2).events) :
    (∀ key, key ≠ "runtime_msg" → (u1.member key).stringify = (u2.member key).stringify) ∧
      ((params1.member "transaction").member "call").stringify =
        ((params2.member "transaction").member "call").stringify ∧
      ∃ b1 b2, (.serializeCall ((params1.member "transaction").member "call"), .ok b1) ∈
          Event.calls ((signTransaction origin1 params1).run env1 past1).events ∧
        (.serializeCall ((params2.member "transaction").member "call"), .ok b2) ∈
          Event.calls ((signTransaction origin2 params2).run env2 past2).events ∧
        arrayFrom b1 = .ok (u1.member "runtime_msg") ∧ arrayFrom b2 = .ok (u2.member "runtime_msg") := by
  obtain ⟨b1, rm1, hb1, hrm1, rfl⟩ :=
    Unsigned.eq hp1.transaction hkeys1 (signTransaction_flow origin1 params1 env1 past1 _ hu1)
  obtain ⟨b2, rm2, hb2, hrm2, rfl⟩ :=
    Unsigned.eq hp2.transaction hkeys2 (signTransaction_flow origin2 params2 env2 past2 _ hu2)
  obtain ⟨-, -, -, a1, -, -, -, hpanel1⟩ := signTransaction_dialog origin1 params1 env1 past1 content o1 hd1
  obtain ⟨-, -, -, a2, -, -, -, hpanel2⟩ := signTransaction_dialog origin2 params2 env2 past2 content o2 hd2
  have hjson := member_stringify_of_panel hp1.transaction hp2.transaction hpanel1 hpanel2
  refine ⟨fun key hk => ?_, hjson "call", b1, b2, hb1, hb2, ?_, ?_⟩
  · rw [unsigned_member hp1.transaction _ hk, unsigned_member hp2.transaction _ hk]
    split
    · rfl
    · exact hjson key
  · rwa [unsigned_runtime_msg hp1.transaction]
  · rwa [unsigned_runtime_msg hp2.transaction]

/-- The signing parameters of the snap's test with `chain_id` listed before `nonce`. -/
def swappedSignParams : JsValue :=
  .object [("keyId", .number (.ofNat 0)), ("transaction", .object [("call", .object [("bank", .object [])]),
    ("chain_id", .number (.ofNat 4321)), ("nonce", .number (.ofNat 0)),
    ("max_priority_fee_bips", .number (.ofNat 0)), ("max_fee", .number (.ofNat 10000)),
    ("gas_limit", .array [])])]

def testUnsigned : JsValue :=
  .object [("nonce", .number (.ofNat 0)), ("chain_id", .number (.ofNat 4321)),
    ("max_priority_fee_bips", .number (.ofNat 0)), ("max_fee", .number (.ofNat 10000)),
    ("gas_limit", .array []), ("runtime_msg", .array [])]

def swappedUnsigned : JsValue :=
  .object [("chain_id", .number (.ofNat 4321)), ("nonce", .number (.ofNat 0)),
    ("max_priority_fee_bips", .number (.ofNat 0)), ("max_fee", .number (.ofNat 10000)),
    ("gas_limit", .array []), ("runtime_msg", .array [])]

/-- The two requests show one panel, and the approved runs hand the codec
different unsigned transactions, whose JSON texts differ in the order of their keys. -/
theorem same_panel_unsigned_key_order :
    let calls1 := Event.calls ((signTransaction "localhost" testSignParams).run
      (Env.ofAnswers (approvingAnswers "0x01")) []).events
    let calls2 := Event.calls ((signTransaction "localhost" swappedSignParams).run
      (Env.ofAnswers (approvingAnswers "0x01")) []).events
    let content := (confirmationPanel "localhost" (testSignParams.member "transaction")
      (.string "sov1abcd")).toOption.getD []
    (.dialog content, .ok (.bool true)) ∈ calls1 ∧ (.dialog content, .ok (.bool true)) ∈ calls2 ∧
      (.serializeUnsignedTransaction testUnsigned, .ok (.bytes [])) ∈ calls1 ∧
      (.serializeUnsignedTransaction swappedUnsigned, .ok (.bytes [])) ∈ calls2 ∧
      testUnsigned.stringify ≠ swappedUnsigned.stringify := by
  decide

theorem same_panel_same_unsigned_json_swapped_keys :
    let calls1 := Event.calls ((signTransaction "localhost" testSignParams).run
      (Env.ofAnswers (approvingAnswers "0x01")) []).events
    let calls2 := Event.calls ((signTransaction "localhost" swappedSignParams).run
      (Env.ofAnswers (approvingAnswers "0x01")) []).events
    let content := (confirmationPanel "localhost" (testSignParams.member "transaction")
      (.string "sov1abcd")).toOption.getD []
    SignParamsShape testSignParams ∧ SignParamsShape swappedSignParams ∧
      ((testSignParams.member "transaction").ownProps.map Prod.fst).Nodup ∧
      ((swappedSignParams.member "transaction").ownProps.map Prod.fst).Nodup ∧
      (.dialog content, .ok (.bool true)) ∈ calls1 ∧ (.dialog content, .ok (.bool true)) ∈ calls2 ∧
      (.serializeUnsignedTransaction testUnsigned, .ok (.bytes [])) ∈ calls1 ∧
      (.serializeUnsignedTransaction swappedUnsigned, .ok (.bytes [])) ∈ calls2 ∧
      (∀ key, key ≠ "runtime_msg" →
        (testUnsigned.member key).stringify = (swappedUnsigned.member key).stringify) ∧
      ((testSignParams.member "transaction").member "call").stringify =
        ((swappedSignParams.member "transaction").member "call").stringify ∧
      ∃ b1 b2, (.serializeCall ((testSignParams.member "transaction").member "call"), .ok b1) ∈ calls1 ∧
        (.serializeCall ((swappedSignParams.member "transaction").member "call"), .ok b2) ∈ calls2 ∧
        arrayFrom b1 = .ok (testUnsigned.member "runtime_msg") ∧
        arrayFrom b2 = .ok (swappedUnsigned.member "runtime_msg") :=
  have hp1 := (validate_signTransactionStruct testSignParams).1 ⟨testSignParams, by decide⟩
  have hp2 := (validate_signTransactionStruct swappedSignParams).1 ⟨swappedSignParams, by decide⟩
  have hk1 : ((testSignParams.member "transaction").ownProps.map Prod.fst).Nodup := by decide
  have hk2 : ((swappedSignParams.member "transaction").ownProps.map Prod.fst).Nodup := by decide
  have hd1 : (.dialog ((confirmationPanel "localhost" (testSignParams.member "transaction")
      (.string "sov1abcd")).toOption.getD []), .ok (.bool true)) ∈ Event.calls ((signTransaction
        "localhost" testSignParams).run (Env.ofAnswers (approvingAnswers "0x01")) []).events := by
    decide
  have hd2 : (.dialog ((confirmationPanel "localhost" (testSignParams.member "transaction")
      (.string "sov1abcd")).toOption.getD []), .ok (.bool true)) ∈ Event.calls ((signTransaction
        "localhost" swappedSignParams).run (Env.ofAnswers (approvingAnswers "0x01")) []).events := by
    decide
  have hu1 : (.serializeUnsignedTransaction testUnsigned, .ok (.bytes [])) ∈ Event.calls ((signTransaction
      "localhost" testSignParams).run (Env.ofAnswers (approvingAnswers "0x01")) []).events := by decide
  have hu2 : (.serializeUnsignedTransaction swappedUnsigned, .ok (.bytes [])) ∈ Event.calls ((signTransaction
      "localhost" swappedSignParams).run (Env.ofAnswers (approvingAnswers "0x01")) []).events := by decide
  ⟨hp1, hp2, hk1, hk2, hd1, hd2, hu1, hu2, same_panel_same_unsigned_json "localhost" "localhost" _ _ hp1 hp2
    hk1 hk2 _ _ [] [] _ _ _ hd1 hd2 _ _ _ _ hu1 hu2⟩

end SovereignSnap
