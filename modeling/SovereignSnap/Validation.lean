import SovereignSnap.Handler

/-! # What the parameter structs admit

`SignTransactionStruct` and `GetAddressStruct` field by field, and the derivation
path an admitted key id leads to.
-/

namespace SovereignSnap

open Js JsValue Script

def KeysWithin (v : JsValue) (keys : List String) : Prop := ∀ p ∈ v.ownProps, p.1 ∈ keys

/-- What `TransactionStruct` admits. -/
@[mk_iff] structure TransactionShape (transaction : JsValue) : Prop where
  isObject : transaction.isObject
  keys : KeysWithin transaction
    ["call", "chain_id", "max_priority_fee_bips", "max_fee", "gas_limit", "nonce"]
  call : (transaction.member "call").isObject
  chainId : IsNumber (transaction.member "chain_id")
  maxPriorityFeeBips : IsNumber (transaction.member "max_priority_fee_bips")
  maxFee : IsNumber (transaction.member "max_fee")
  gasLimit : transaction.member "gas_limit" = .undefined ∨
    ∃ vs, transaction.member "gas_limit" = .array vs ∧ ∀ x ∈ vs, IsNumber x
  nonce : IsNumber (transaction.member "nonce")

/-- What `SignTransactionStruct` admits. -/
@[mk_iff] structure SignParamsShape (params : JsValue) : Prop where
  isObject : params.isObject
  keys : KeysWithin params ["transaction", "keyId"]
  transaction : TransactionShape (params.member "transaction")
  keyId : IsNumber (params.member "keyId")

theorem validate_ok_iff {v : JsValue} {s : Struct} :
    (∃ w, validate v s = .ok w) ↔ s.check [] v = none := by
  unfold validate
  split <;> simp_all

theorem forall_mem_indexed {P : JsValue → Prop} {vs : List JsValue} :
    (∀ p ∈ indexed vs, P p.2) ↔ ∀ x ∈ vs, P x := by
  conv_rhs => rw [← map_snd_indexed vs]
  exact List.forall_mem_map.symm

theorem forall_mem_indexed_isNumber {vs : List JsValue} :
    (∀ p ∈ indexed vs, IsNumber p.2) ↔ ∀ x ∈ vs, IsNumber x := forall_mem_indexed

theorem validate_signTransactionStruct (params : JsValue) :
    (∃ w, validate params signTransactionStruct = .ok w) ↔ SignParamsShape params := by
  rw [validate_ok_iff, signParamsShape_iff, transactionShape_iff]
  simp only [signTransactionStruct, transactionStruct, Struct.check_object, Struct.checkSchema_cons,
    Struct.checkSchema_nil, Struct.check_anyObject, Struct.check_number, Struct.check_optional,
    Struct.check_array, KeysWithin, forall_mem_indexed_isNumber, List.map_cons,
    List.map_nil, and_true]
  tauto

theorem validate_getAddressStruct (params : JsValue) :
    (∃ w, validate params getAddressStruct = .ok w) ↔
      params.isObject ∧ IsNumber (params.member "keyId") := by
  rw [validate_ok_iff]
  simp [getAddressStruct]

/-! ## The derivation path -/

theorem append_quote_injective {a b : String} (h : a ++ "'" = b ++ "'") : a = b := by
  cases a
  cases b
  exact congrArg String.mk (List.append_cancel_right (congrArg String.data h))

/-- Both structs admit exactly the key ids that are numbers other than `NaN`,
and such a key id `x` leads to the path `m/44'/1551'/x'`; a key id whose value is
a natural below `2 ^ 31` prints as that natural's numeral, and distinct such key
ids lead to distinct paths. -/
theorem keypairParams_path :
    (∀ params : JsValue, ((∃ w, validate params getAddressStruct = .ok w) ∨
        ∃ w, validate params signTransactionStruct = .ok w) →
      ∃ x : JsNumber, params.member "keyId" = .number x ∧ x.isNaN = false ∧
        (getKeypairParams (params.member "keyId")).member "path" =
          .array [.string "m", .string "44'", .string "1551'", .string (x.toString ++ "'")]) ∧
    (∀ x : JsNumber, x.isNaN = false →
      (∃ w, validate (.object [("keyId", .number x)]) getAddressStruct = .ok w) ∧
      ∀ transaction, TransactionShape transaction →
        ∃ w, validate (.object [("transaction", transaction), ("keyId", .number x)]) signTransactionStruct =
          .ok w) ∧
    (∀ (x : JsNumber) (n : Nat), x.asNat? = some n → n < 2 ^ 31 →
      (JsValue.number x).toStr = Nat.repr n) ∧
    (∀ (x y : JsNumber) (n m : Nat), x.asNat? = some n → y.asNat? = some m → n < 2 ^ 31 →
      m < 2 ^ 31 → (getKeypairParams (.number x)).member "path" =
        (getKeypairParams (.number y)).member "path" → n = m) := by
  have hrepr : ∀ (x : JsNumber) (n : Nat), x.asNat? = some n → n < 2 ^ 31 →
      (JsValue.number x).toStr = Nat.repr n := fun x n hx hn =>
    JsNumber.toString_of_asNat hx (lt_trans hn (by norm_num))
  have hadmit : ∀ params : JsValue, ((∃ w, validate params getAddressStruct = .ok w) ∨
      ∃ w, validate params signTransactionStruct = .ok w) → IsNumber (params.member "keyId") := by
    rintro params (h | h)
    · exact ((validate_getAddressStruct params).1 h).2
    · exact ((validate_signTransactionStruct params).1 h).keyId
  refine ⟨fun params h => ?_, fun x hx => ⟨?_, fun t ht => ?_⟩, hrepr, fun x y n m hx hy hn hm h => ?_⟩
  · obtain ⟨x, hkey, hnan⟩ := hadmit params h
    exact ⟨x, hkey, hnan, by rw [hkey]; rfl⟩
  · exact (validate_getAddressStruct _).2 ⟨rfl, x, rfl, hx⟩
  · refine (validate_signTransactionStruct _).2 ⟨rfl, ?_, ht, x, rfl, hx⟩
    simp [KeysWithin, ownProps]
  · simp only [getKeypairParams, member, lookup, if_true, Option.getD_some, array.injEq,
      List.cons.injEq, string.injEq, and_true, true_and] at h
    exact repr_injective (by rw [← hrepr x n hx hn, ← hrepr y m hy hm, append_quote_injective h])

/-- `getAddress` parameters with key id `-1`. -/
def negativeKeyIdParams : JsValue := .object [("keyId", .number (.finite true ⟨1, 0, by decide⟩))]

theorem getAddressStruct_admits_negative_keyId :
    validate negativeKeyIdParams getAddressStruct = .ok negativeKeyIdParams ∧
      (getKeypairParams (negativeKeyIdParams.member "keyId")).member "path" =
        .array [.string "m", .string "44'", .string "1551'", .string "-1'"] := by
  decide

end SovereignSnap
