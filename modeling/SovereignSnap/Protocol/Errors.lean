import SovereignSnap.Protocol.Order
import SovereignSnap.Protocol.Assembly

/-! # How a request ends

The `catch` blocks rethrow what they caught after `er.toString()`, which itself
throws on `undefined` and `null`.
-/

namespace SovereignSnap

open Js JsValue Script Protocol

/-- Collaborators of a signing run whose entropy request rejects with `null`. -/
def entropyNullEnv : Env := fun _ c => match c with
  | .getBip32Entropy _ => .error .null
  | _ => .ok .undefined

/-- When the entropy request rejects with `null`, the `catch` block releases the
codec and then `er.toString()` throws a `TypeError`, which the request throws in
place of `null`. -/
theorem signTransaction_rethrow_replaced :
    Event.calls ((onRpcRequest "localhost" ⟨"signTransaction", testSignParams⟩).run
        entropyNullEnv []).events =
      [(.getBip32Entropy (getKeypairParams (.number (.ofNat 0))), .error .null),
        (.dealloc, .ok .undefined)] ∧
    ((onRpcRequest "localhost" ⟨"signTransaction", testSignParams⟩).run entropyNullEnv []).result =
      .error (typeError "Cannot read properties of null (reading 'toString')") := by
  decide

end SovereignSnap
