import SovereignSnap.Superstruct
import SovereignSnap.Script

/-! # The snap's JSON-RPC handler

`onRpcRequest` and its helpers, line by line: each read, conversion and library
call is a step that may throw, each custody request, dialog, `wasm` method and
`sign` a collaborator call.
-/

namespace SovereignSnap

open Js JsValue Script

structure Request where
  method : String
  params : JsValue

/-- `getKeypairParams(keyId)`: the derivation request for the key id's account. -/
def getKeypairParams (keyId : JsValue) : JsValue :=
  .object [("path", .array [.string "m", .string "44'", .string "1551'", .string (keyId.toStr ++ "'")]),
    ("compressed", .bool true), ("curve", .string "ed25519")]

/-- `cleanPublicKeyResponse(response)`: `slice(2)` skips the two digits of the
flag byte MetaMask prepends to the public key. -/
def cleanPublicKeyResponse (response : JsValue) : Except JsValue String :=
  (remove0x response).map fun s => ⟨dropCodeUnits 2 s.toList⟩

/-- `omitKey(key, obj)`: the rest of `obj` after destructuring `key` out. -/
def omitKey (key : String) (obj : JsValue) : Except JsValue JsValue :=
  match obj with
  | .undefined => .error (typeError "Cannot destructure 'obj' as it is undefined.")
  | .null => .error (typeError "Cannot destructure 'obj' as it is null.")
  | obj => .ok (.object (obj.ownProps.filter fun p => p.1 ≠ key))

/-- `JSON.stringify(value)` as a value: `undefined` where it gives no string. -/
def jsonValue (v : JsValue) : JsValue :=
  match v.stringify with
  | some s => .string s
  | none => .undefined

/-- `value.toString()` of a transaction field, for the panel. -/
def fieldString (transaction : JsValue) (key : String) : Except JsValue JsValue := do
  .string <$> (← transaction.get key).callToString

/-- The confirmation panel of `signTransaction`, built in the source's order. -/
def confirmationPanel (origin : String) (transaction address : JsValue) :
    Except JsValue (List Component) := do
  let callMessage ← copyable (jsonValue (← transaction.get "call"))
  let from_ ← copyable address
  let nonce ← copyable (← fieldString transaction "nonce")
  let chainId ← copyable (← fieldString transaction "chain_id")
  let maxPriorityFeeBips ← copyable (← fieldString transaction "max_priority_fee_bips")
  let maxFee ← copyable (← fieldString transaction "max_fee")
  let gasLimit ← transaction.get "gas_limit"
  let gas ← copyable (.string (← if gasLimit.truthy then callJoin gasLimit ", " else pure "Not Set"))
  pure [.heading "Signature request", .text "The application at:", .copyable origin,
    .text "is requesting a signature for the call message:", callMessage, .text "from address:", from_,
    .text "with nonce:", nonce, .text "with chainId:", chainId,
    .text "with maxPriorityFeeBips:", maxPriorityFeeBips, .text "with maxFee:", maxFee,
    .text "with gasLimit:", gas]

/-- The `catch (er)` block of `getAddress`. -/
def getAddressCatch (er : JsValue) : Script JsValue := do
  let message ← lift er.callToString
  write .error ("Error during requesting public key and encoding into address in getAddress:" ++ message)
  let _ ← call .dealloc
  throw er

/-- The `try` block of `getAddress`: the public key, its address, the release. -/
def getAddressTry (keypairParams : JsValue) : Script JsValue := do
  let publicKeyRequest : JsValue :=
    .object [("method", .string "snap_getBip32PublicKey"), ("params", keypairParams)]
  write .trace ("Requesting public key with args:" ++ publicKeyRequest.stringifyText)
  let publicKeyResponse ← call (.getBip32PublicKey keypairParams)
  let publicKey ← lift (cleanPublicKeyResponse publicKeyResponse)
  write .trace ("Bech encoding public key: \x7b" ++ publicKey ++ "\x7d to get address")
  let address ← call (.bechEncodePublicKey publicKey)
  let _ ← call .dealloc
  write .trace ("RPC Response: getAddress:" ++ address.toStr)
  pure address

/-- The `getAddress` branch of `onRpcRequest`. -/
def getAddress (params : JsValue) : Script JsValue := do
  write .trace "RPC Request: getAddress"
  match validate params getAddressStruct with
  | .error validationErr =>
      write .error ("Encountered validation error in getPublicKey:" ++ validationErr.toString)
      throw (invalidParams validationErr.toString)
  | .ok params =>
      let keyId ← lift (params.get "keyId")
      write .log ("Got keyId " ++ keyId.toStr)
      let keypairParams := getKeypairParams keyId
      try getAddressTry keypairParams
      catch er => getAddressCatch er

/-- The `catch (er)` block of `signTransaction`. -/
def signTransactionCatch (er : JsValue) : Script JsValue := do
  let _ ← call .dealloc
  let message ← lift er.callToString
  write .error ("Error in signTransaction: " ++ message)
  throw er

/-- `signTransaction` after `sign` returns: the signed transaction, its
serialization and hex, the release. -/
def assembleTransaction (publicKey : String) (unsignedTransaction signature : JsValue) :
    Script JsValue := do
  let sig ← lift (arrayFrom signature)
  let signedTransaction : JsValue := .object
    (spread [("signature", .object [("msg_sig", sig)]), ("pub_key", .string publicKey)]
      unsignedTransaction)
  write .trace ("Serializing signed transaction: " ++ signedTransaction.stringifyText)
  let tx ← call (.serializeTransaction signedTransaction)
  let txHex ← lift (bytesToHex tx)
  let _ ← call .dealloc
  write .trace ("RPC Response: signTransaction: " ++ txHex)
  pure (.string txHex)

/-- `signTransaction` after the operator approves: the runtime message, the
unsigned transaction and its serialization, the signature. -/
def serializeAndSign (transaction node : JsValue) (publicKey : String) : Script JsValue := do
  let callMessage ← lift (transaction.get "call")
  write .trace ("Serializing call message to get runtime message. Call message: " ++
    callMessage.stringifyText)
  let runtimeMsg ← lift (arrayFrom (← call (.serializeCall callMessage)))
  let unsignedTransaction : JsValue :=
    .object (setProp (spread [] (← lift (omitKey "call" transaction))) "runtime_msg" runtimeMsg)
  write .trace ("Serializing unsigned transaction: " ++ unsignedTransaction.stringifyText)
  let serializedUnsignedTransaction ← call (.serializeUnsignedTransaction unsignedTransaction)
  let privateKey ← lift (remove0x (← lift (node.get "privateKey")))
  write .trace ("Signing unsigned transaction.\nSerializedUnsignedTransaction: " ++
    serializedUnsignedTransaction.toStr)
  let signature ← call (.sign serializedUnsignedTransaction privateKey)
  assembleTransaction publicKey unsignedTransaction signature

/-- `signTransaction` after `SLIP10Node.fromJSON` returns the node: the key
checks, the address, the confirmation dialog and its verdict. -/
def confirmSignature (origin : String) (transaction node : JsValue) : Script JsValue := do
  lift (assert (← lift (node.get "privateKey")))
  let publicKey ← lift (cleanPublicKeyResponse (← lift (node.get "publicKey")))
  write .trace ("Bech encoding public key: \x7b" ++ publicKey ++ "\x7d to get address")
  let address ← call (.bechEncodePublicKey publicKey)
  let approved ← call (.dialog (← lift (confirmationPanel origin transaction address)))
  if !approved.truthy then
    write .error "User rejected signature approval."
    throw userRejectedRequest
  serializeAndSign transaction node publicKey

/-- The `try` block of `signTransaction`. -/
def signTransactionTry (origin : String) (transaction keypairParams : JsValue) :
    Script JsValue := do
  let entropy ← call (.getBip32Entropy keypairParams)
  let node ← call (.fromJSON entropy)
  confirmSignature origin transaction node

/-- The `signTransaction` branch of `onRpcRequest`. -/
def signTransaction (origin : String) (params : JsValue) : Script JsValue := do
  write .trace "RPC Request: signTransaction"
  match validate params signTransactionStruct with
  | .error validationErr =>
      write .error ("Encountered validation error:" ++ validationErr.toString)
      throw (invalidParams validationErr.toString)
  | .ok params =>
      let transaction ← lift (params.get "transaction")
      let keyId ← lift (params.get "keyId")
      let keypairParams := getKeypairParams keyId
      try signTransactionTry origin transaction keypairParams
      catch er => signTransactionCatch er

/-- `onRpcRequest({ origin, request })`. -/
def onRpcRequest (origin : String) (request : Request) : Script JsValue :=
  match request.method with
  | "getAddress" => getAddress request.params
  | "signTransaction" => signTransaction origin request.params
  | _ => throw methodNotFound

end SovereignSnap
