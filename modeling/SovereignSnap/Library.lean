import SovereignSnap.Js.Json
import Mathlib.Data.String.Basic

/-! # Library functions the snap calls

The functions of `@metamask/utils`, `@metamask/rpc-errors` and
`@metamask/snaps-ui` the handler applies: they run inside the snap and only
compute or throw.
-/

namespace SovereignSnap

open Js JsValue

/-- `remove0x(hexadecimal)`: drops a leading `0x` or `0X` of a string. -/
def remove0x : JsValue → Except JsValue String
  | .string s => .ok (match s.toList with
      | '0' :: 'x' :: rest | '0' :: 'X' :: rest => ⟨rest⟩
      | _ => s)
  | .undefined => .error (typeError "Cannot read properties of undefined (reading 'startsWith')")
  | .null => .error (typeError "Cannot read properties of null (reading 'startsWith')")
  | _ => .error (typeError "hexadecimal.startsWith is not a function")

theorem remove0x_string (s : String) : ∃ r, remove0x (.string s) = .ok r := ⟨_, rfl⟩

/-- `slice(k)` on a string's UTF-16 code units, of which a character outside the
basic plane is two. A cut between those two leaves the low surrogate alone, which
the codec's `TextEncoder` reads as U+FFFD. -/
def dropCodeUnits : Nat → List Char → List Char
  | k + 1, c :: cs =>
    if c.toNat < 0x10000 then dropCodeUnits k cs
    else if k = 0 then Char.ofNat 0xFFFD :: cs else dropCodeUnits (k - 1) cs
  | _, cs => cs

theorem dropCodeUnits_of_bmp {cs : List Char} (h : ∀ c ∈ cs, c.toNat < 0x10000) (k : Nat) :
    dropCodeUnits k cs = cs.drop k := by
  induction cs generalizing k with
  | nil => cases k <;> rfl
  | cons c cs ih =>
    cases k with
    | zero => rfl
    | succ k =>
      rw [dropCodeUnits.eq_1, if_pos (h c (List.mem_cons_self _ _)), List.drop_succ_cons]
      exact ih (fun d hd => h d (List.mem_cons_of_mem _ hd)) k

example : dropCodeUnits 2 "😀ab".toList = "ab".toList ∧
    dropCodeUnits 2 "a😀b".toList = [Char.ofNat 0xFFFD, 'b'] := by
  decide

/-- An `AssertionError` of `@metamask/utils`: it sets no `name` of its own, so
it is named `Error`. -/
def assertionError (message : String) : JsValue := .error ⟨"Error", none, message⟩

/-- `assert(value)`: throws unless the value is truthy. -/
def assert (v : JsValue) : Except JsValue Unit :=
  if v.truthy then .ok () else .error (assertionError "Assertion failed.")

@[simp] theorem assert_string (s : String) : assert (.string s) = .ok () ↔ s ≠ "" := by
  simp [assert, truthy, String.isEmpty_iff]

/-- `bytesToHex(bytes)`: `0x`, then two lowercase digits a byte. -/
def bytesToHex : JsValue → Except JsValue String
  | .bytes bs => .ok ⟨'0' :: 'x' :: bs.flatMap fun b => [hexDigit (b.toNat / 16), hexDigit (b.toNat % 16)]⟩
  | _ => .error (assertionError "Value must be a Uint8Array.")

def isHexDigit (c : Char) : Bool :=
  c.isDigit || ('a' ≤ c && c ≤ 'f') || ('A' ≤ c && c ≤ 'F')

/-- The value of a lowercase hexadecimal digit, as `hexToBytes` computes it from
the character code. -/
def hexValue (c : Char) : Nat := c.toNat - if c.toNat < 58 then 48 else 87

def hexPairs : List Char → List UInt8
  | high :: low :: rest => UInt8.ofNat (hexValue high * 16 + hexValue low) :: hexPairs rest
  | _ => []

/-- `hexToBytes(value)`: `0x` alone gives no bytes; otherwise the value must be
a hexadecimal string, an optional `0x` or `0X` then digits in either case, read
in lowercase two digits a byte after a `0` pads it to an even length. -/
def hexToBytes (value : JsValue) : Except JsValue (List UInt8) :=
  match value with
  | .string s =>
    if s.toList.map Char.toLower = ['0', 'x'] then .ok []
    else
      let digits := match s.toList with
        | '0' :: 'x' :: rest | '0' :: 'X' :: rest => rest
        | cs => cs
      if digits ≠ [] ∧ digits.all isHexDigit then
        let lower := digits.map Char.toLower
        .ok (hexPairs (if lower.length % 2 = 0 then lower else '0' :: lower))
      else .error (assertionError "Value must be a hexadecimal string.")
  | _ => .error (assertionError "Value must be a hexadecimal string.")

def base64Digit (n : Nat) : Char :=
  "ABCDEFGHIJKLMNOPQRSTUVWXYZabcdefghijklmnopqrstuvwxyz0123456789+/".toList.getD n '='

/-- Base64 of bytes, three bytes to four digits, the last group padded with `=`. -/
def base64Chars : List UInt8 → List Char
  | a :: b :: c :: rest =>
    let n := a.toNat * 65536 + b.toNat * 256 + c.toNat
    [base64Digit (n / 262144), base64Digit (n / 4096 % 64), base64Digit (n / 64 % 64),
      base64Digit (n % 64)] ++ base64Chars rest
  | [a, b] =>
    let n := a.toNat * 65536 + b.toNat * 256
    [base64Digit (n / 262144), base64Digit (n / 4096 % 64), base64Digit (n / 64 % 64), '=']
  | [a] => [base64Digit (a.toNat / 4), base64Digit (a.toNat % 4 * 16), '=', '=']
  | [] => []

/-- `bytesToBase64(bytes)`. -/
def bytesToBase64 (bytes : List UInt8) : String := ⟨base64Chars bytes⟩

example : hexToBytes (.string "0xab01") = .ok [0xab, 0x01] := by decide

example : bytesToBase64 [0x4d, 0x61, 0x6e, 0x4d] = "TWFuTQ==" := by decide

/-- `value.join(sep)`: a `TypeError` unless the value is an array. -/
def callJoin (v : JsValue) (sep : String) : Except JsValue String :=
  match v with
  | .array vs => .ok (JsValue.join sep vs)
  | .undefined => .error (typeError "Cannot read properties of undefined (reading 'join')")
  | .null => .error (typeError "Cannot read properties of null (reading 'join')")
  | _ => .error (typeError "transaction.gas_limit.join is not a function")

/-- `rpcErrors.invalidParams(message)`. -/
def invalidParams (message : String) : JsValue := .error ⟨"Error", some (-32602), message⟩

/-- `providerErrors.userRejectedRequest()`. -/
def userRejectedRequest : JsValue := .error ⟨"Error", some 4001, "User rejected the request."⟩

/-- `new Error('Method not found.')`. -/
def methodNotFound : JsValue := .error ⟨"Error", none, "Method not found."⟩

/-- The `@metamask/snaps-ui` components of a panel. -/
inductive Component where
  | heading (value : String)
  | text (value : String)
  | copyable (value : String)
deriving DecidableEq

/-- `copyable(value)`, whose struct rejects a value that is not a string. -/
def copyable : JsValue → Except JsValue Component
  | .string s => .ok (.copyable s)
  | _ => .error (.error ⟨"Error", none, "Invalid copyable component"⟩)

@[simp] theorem copyable_string (s : String) : copyable (.string s) = .ok (.copyable s) := rfl

theorem copyable_eq_ok {v : JsValue} {c : Component} (h : copyable v = .ok c) :
    ∃ s, v = .string s ∧ c = .copyable s := by
  unfold copyable at h
  split at h
  · exact ⟨_, rfl, (Except.ok.inj h).symm⟩
  · cases h

end SovereignSnap
