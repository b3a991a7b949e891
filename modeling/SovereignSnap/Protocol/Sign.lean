import SovereignSnap.Handler
import SovereignSnap.Protocol.Machine

/-! # The signing protocol

The collaborator calls of `signTransaction` once its parameters are read, as a
machine, and the refinement: the handler makes exactly the machine's calls.
-/

namespace SovereignSnap

open Js JsValue Script Protocol

section Steps

variable (transaction : JsValue)

/-- `assert(node.privateKey)`, then `cleanPublicKeyResponse(node.publicKey)`. -/
def nodePublicKey (node : JsValue) : Except JsValue String := do
  assert (← node.get "privateKey")
  cleanPublicKeyResponse (← node.get "publicKey")

/-- `{ ...omitKey("call", transaction), runtime_msg: Array.from(serializedCall) }`. -/
def unsignedTransactionOf (serializedCall : JsValue) : Except JsValue JsValue := do
  let runtimeMsg ← arrayFrom serializedCall
  pure (.object (setProp (spread [] (← omitKey "call" transaction)) "runtime_msg" runtimeMsg))

/-- `remove0x(node.privateKey)`. -/
def nodePrivateKey (node : JsValue) : Except JsValue String := do
  remove0x (← node.get "privateKey")

/-- `{ signature: { msg_sig: Array.from(signature) }, pub_key, ...unsignedTransaction }`. -/
def signedTransactionOf (publicKey : String) (unsignedTransaction signature : JsValue) :
    Except JsValue JsValue := do
  let sig ← arrayFrom signature
  pure (.object (spread [("signature", .object [("msg_sig", sig)]), ("pub_key", .string publicKey)]
    unsignedTransaction))

theorem unsignedTransactionOf_eq {serializedCall runtimeMsg : JsValue} (hT : transaction.isObject)
    (hkeys : (transaction.ownProps.map Prod.fst).Nodup)
    (hrm : "runtime_msg" ∉ transaction.ownProps.map Prod.fst)
    (hb : arrayFrom serializedCall = .ok runtimeMsg) :
    unsignedTransactionOf transaction serializedCall =
      .ok (.object (transaction.ownProps.filter (·.1 ≠ "call") ++ [("runtime_msg", runtimeMsg)])) := by
  have hsub := (List.filter_sublist (p := fun p : String × JsValue => decide (p.1 ≠ "call"))
    transaction.ownProps).map Prod.fst
  have homit : omitKey "call" transaction =
      .ok (.object (transaction.ownProps.filter (·.1 ≠ "call"))) := by
    unfold omitKey
    split
    · cases hT
    · cases hT
    · rfl
  simp only [unsignedTransactionOf, hb, homit, except_ok_bind]
  rw [spread_of_nodup (by rw [List.map_nil, List.nil_append]; exact hkeys.sublist hsub),
    List.nil_append, ownProps, setProp_of_not_mem _ fun h => hrm (hsub.subset h)]
  rfl

theorem signedTransactionOf_eq {publicKey : String} {unsignedProps : List (String × JsValue)}
    {signature sig : JsValue} (hkeys : ("signature" :: "pub_key" :: unsignedProps.map Prod.fst).Nodup)
    (hs : arrayFrom signature = .ok sig) :
    signedTransactionOf publicKey (.object unsignedProps) signature = .ok (.object
      (("signature", .object [("msg_sig", sig)]) :: ("pub_key", .string publicKey) :: unsignedProps)) := by
  simp only [signedTransactionOf, hs, except_ok_bind]
  rw [spread_of_nodup (by simpa [ownProps] using hkeys)]
  rfl

end Steps

/-- Where a run of `signTransaction` stands: the call it waits for, with the data
that call and the later steps need. -/
inductive SignStage where
  | entropy
  | node (entropy : JsValue)
  | address (node : JsValue) (publicKey : String)
  | approval (node : JsValue) (publicKey : String) (content : List Component)
  | runtimeMsg (node : JsValue) (publicKey : String) (callMessage : JsValue)
  | unsigned (node : JsValue) (publicKey : String) (unsignedTransaction : JsValue)
  | signature (publicKey : String) (unsignedTransaction message : JsValue) (privateKey : String)
  | signed (signedTransaction : JsValue)
  | release (txHex : String)
  | cleanup
  | returned (txHex : String)
  | finished

namespace SignStage

variable (origin : String) (transaction keypairParams : JsValue)

def expect : SignStage → Option Call
  | entropy => some (.getBip32Entropy keypairParams)
  | node e => some (.fromJSON e)
  | address _ pk => some (.bechEncodePublicKey pk)
  | approval _ _ content => some (.dialog content)
  | runtimeMsg _ _ c => some (.serializeCall c)
  | unsigned _ _ u => some (.serializeUnsignedTransaction u)
  | signature _ _ m k => some (.sign m k)
  | signed s => some (.serializeTransaction s)
  | release _ | cleanup => some .dealloc
  | returned _ | finished => none

def next : SignStage → Except JsValue JsValue → SignStage
  | entropy, .ok e => node e
  | node _, .ok n => proceed (nodePublicKey n) cleanup (address n)
  | address n pk, .ok a => proceed (confirmationPanel origin transaction a) cleanup (approval n pk)
  | approval n pk _, .ok v =>
      if v.truthy then proceed (transaction.get "call") cleanup (runtimeMsg n pk) else cleanup
  | runtimeMsg n pk _, .ok b => proceed (unsignedTransactionOf transaction b) cleanup (unsigned n pk)
  | unsigned n pk u, .ok m => proceed (nodePrivateKey n) cleanup (signature pk u m)
  | signature pk u _ _, .ok s => proceed (signedTransactionOf pk u s) cleanup signed
  | signed _, .ok tx => proceed (bytesToHex tx) cleanup release
  | release h, .ok _ => returned h
  | returned h, _ => returned h
  | cleanup, _ | finished, _ => finished
  | _, .error _ => cleanup

theorem next_error {q : SignStage} {c : Call} (hc : q.expect keypairParams = some c) (e : JsValue) :
    q.next origin transaction (.error e) = cleanup ∨ q.next origin transaction (.error e) = finished := by
  cases q <;> simp_all [next, expect]

/-- Only the success path returns, and it returns the transaction's hex. -/
def result : SignStage → Except JsValue JsValue → Prop
  | returned h, r => r = .ok (.string h)
  | _, .ok _ => False
  | _, .error _ => True

end SignStage

/-- The signing protocol for an origin, a transaction and derivation parameters. -/
def signProtocol (origin : String) (transaction keypairParams : JsValue) :
    Protocol SignStage JsValue where
  expect := SignStage.expect keypairParams
  next := SignStage.next origin transaction
  result := SignStage.result

@[simp] theorem signProtocol_expect (origin : String) (transaction keypairParams : JsValue) :
    (signProtocol origin transaction keypairParams).expect = SignStage.expect keypairParams := rfl

@[simp] theorem signProtocol_next (origin : String) (transaction keypairParams : JsValue) :
    (signProtocol origin transaction keypairParams).next = SignStage.next origin transaction := rfl

@[simp] theorem signProtocol_result (origin : String) (transaction keypairParams : JsValue) :
    (signProtocol origin transaction keypairParams).result = SignStage.result := rfl

section Refinement

variable (origin : String) (transaction keypairParams : JsValue)

theorem signTransactionCatch_follows (er : JsValue) :
    (signProtocol origin transaction keypairParams).Follows .cleanup (signTransactionCatch er) := by
  simp +contextual [signTransactionCatch, forall_except, SignStage.expect,
    SignStage.next, SignStage.result]

theorem assembleTransaction_follows (publicKey : String) (unsignedTransaction signature : JsValue) :
    (signProtocol origin transaction keypairParams).Follows
      (proceed (signedTransactionOf publicKey unsignedTransaction signature) .cleanup .signed)
      ((assembleTransaction publicKey unsignedTransaction signature).tryCatch signTransactionCatch) := by
  simp +contextual [assembleTransaction, signedTransactionOf, forall_except,
    SignStage.expect, SignStage.next, SignStage.result, signTransactionCatch_follows]

theorem serializeAndSign_follows (node : JsValue) (publicKey : String) :
    (signProtocol origin transaction keypairParams).Follows
      (proceed (transaction.get "call") .cleanup (.runtimeMsg node publicKey))
      ((serializeAndSign transaction node publicKey).tryCatch signTransactionCatch) := by
  simp +contextual [serializeAndSign, unsignedTransactionOf, nodePrivateKey, forall_except,
    SignStage.expect, SignStage.next, SignStage.result, signTransactionCatch_follows,
    assembleTransaction_follows]

theorem confirmSignature_follows (node : JsValue) :
    (signProtocol origin transaction keypairParams).Follows
      (proceed (nodePublicKey node) .cleanup (.address node))
      ((confirmSignature origin transaction node).tryCatch signTransactionCatch) := by
  simp +contextual only [nodePublicKey, confirmSignature, Bool.not_eq_eq_eq_not, Bool.not_true,
    throw_eq, bind_eq, done_error_bind, write_bind, pure_eq, done_ok_bind, call_bind, lift_bind,
    follows_done_bind_tryCatch, except_error_bind, proceed_error, signTransactionCatch_follows,
    except_ok_bind, proceed_ok, console_tryCatch, invoke_tryCatch, follows_console, follows_invoke,
    signProtocol_expect, SignStage.expect, signProtocol_next, SignStage.next, forall_except,
    reduceCtorEq, Except.ok.injEq, forall_eq', false_implies, true_implies, forall_const, implies_true,
    and_true, true_and]
  intro _ _ _ _ _ _ _ _ _ _ _ approved
  cases approved.truthy <;> simp [signTransactionCatch_follows, serializeAndSign_follows]

theorem signTransactionTry_follows :
    (signProtocol origin transaction keypairParams).Follows .entropy
      ((signTransactionTry origin transaction keypairParams).tryCatch signTransactionCatch) := by
  simp +contextual [signTransactionTry, forall_except, SignStage.expect, SignStage.next,
    signTransactionCatch_follows, confirmSignature_follows]

end Refinement

theorem signTransaction_follows (origin : String) (params transaction keyId : JsValue)
    (ht : params.get "transaction" = .ok transaction) (hk : params.get "keyId" = .ok keyId) :
    (signProtocol origin transaction (getKeypairParams keyId)).Follows .entropy
      (signTransaction origin params) := by
  cases hv : validate params signTransactionStruct with
  | error f => simp [signTransaction, hv, SignStage.result]
  | ok w =>
      obtain rfl := validate_eq_ok hv
      simpa [signTransaction, hv, ht, hk] using
        signTransactionTry_follows origin transaction (getKeypairParams keyId)

/-- Every request refines the signing protocol for the transaction and key id it
carries; a request that fails validation makes no call. -/
theorem signTransaction_follows_member (origin : String) (params : JsValue) :
    (signProtocol origin (params.member "transaction") (getKeypairParams (params.member "keyId"))).Follows
      .entropy (signTransaction origin params) := by
  cases hv : validate params signTransactionStruct with
  | error f => simp [signTransaction, hv, SignStage.result]
  | ok w =>
      have ho := isObject_of_validate (.inl rfl) hv
      exact signTransaction_follows origin params _ _ (get_of_isObject ho _) (get_of_isObject ho _)

end SovereignSnap
