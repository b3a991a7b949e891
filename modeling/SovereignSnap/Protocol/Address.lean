import SovereignSnap.Handler
import SovereignSnap.Protocol.Machine

/-! # The address protocol

The collaborator calls of `getAddress` once its key id is read, as a machine.
-/

namespace SovereignSnap

open Js JsValue Script Protocol

/-- Where a run of `getAddress` stands: the call it waits for. -/
inductive AddressStage where
  | publicKey
  | address (publicKey : String)
  | release (address : JsValue)
  | cleanup
  | returned (address : JsValue)
  | finished

namespace AddressStage

variable (keypairParams : JsValue)

def expect : AddressStage → Option Call
  | publicKey => some (.getBip32PublicKey keypairParams)
  | address pk => some (.bechEncodePublicKey pk)
  | release _ | cleanup => some .dealloc
  | returned _ | finished => none

def next : AddressStage → Except JsValue JsValue → AddressStage
  | publicKey, .ok r => proceed (cleanPublicKeyResponse r) cleanup address
  | address _, .ok a => release a
  | release a, .ok _ => returned a
  | returned a, _ => returned a
  | cleanup, _ | finished, _ => finished
  | _, .error _ => cleanup

/-- Only the success path returns, and it returns the encoded address. -/
def result : AddressStage → Except JsValue JsValue → Prop
  | returned a, r => r = .ok a
  | _, .ok _ => False
  | _, .error _ => True

end AddressStage

/-- The address protocol for derivation parameters. -/
def addressProtocol (keypairParams : JsValue) : Protocol AddressStage JsValue where
  expect := AddressStage.expect keypairParams
  next := AddressStage.next
  result := AddressStage.result

@[simp] theorem addressProtocol_expect (keypairParams : JsValue) :
    (addressProtocol keypairParams).expect = AddressStage.expect keypairParams := rfl

@[simp] theorem addressProtocol_next (keypairParams : JsValue) :
    (addressProtocol keypairParams).next = AddressStage.next := rfl

@[simp] theorem addressProtocol_result (keypairParams : JsValue) :
    (addressProtocol keypairParams).result = AddressStage.result := rfl

theorem getAddressCatch_follows (keypairParams er : JsValue) :
    (addressProtocol keypairParams).Follows .cleanup (getAddressCatch er) := by
  simp +contextual [getAddressCatch, forall_except, AddressStage.expect, AddressStage.next,
    AddressStage.result]

theorem getAddress_follows (params keyId : JsValue) (hk : params.get "keyId" = .ok keyId) :
    (addressProtocol (getKeypairParams keyId)).Follows .publicKey (getAddress params) := by
  cases hv : validate params getAddressStruct with
  | error f => simp [getAddress, hv, AddressStage.result]
  | ok w =>
      obtain rfl := validate_eq_ok hv
      simp +contextual [getAddress, getAddressTry, hv, hk, forall_except, AddressStage.expect,
        AddressStage.next, AddressStage.result, getAddressCatch_follows]

/-- Every request refines the address protocol for the key id it carries; a
request that fails validation makes no call. -/
theorem getAddress_follows_member (params : JsValue) :
    (addressProtocol (getKeypairParams (params.member "keyId"))).Follows .publicKey
      (getAddress params) := by
  cases hv : validate params getAddressStruct with
  | error f => simp [getAddress, hv, AddressStage.result]
  | ok w => exact getAddress_follows _ _ (get_of_isObject (isObject_of_validate (.inr rfl) hv) _)

end SovereignSnap
