import SovereignSnap.Protocol.Agreement

/-! # The public key a request derives

`cleanPublicKeyResponse` drops a `0x` marker and two more code units, with no
check; every key a request uses is one its run so derived from a custody
response.
-/

namespace SovereignSnap

open Js JsValue Script Protocol

/-! ## Cleaning a response -/

/-- The digits of `n` bytes written in hexadecimal, behind no marker. -/
def HexOfBytes (cs : List Char) (n : Nat) : Prop :=
  cs.length = 2 * n ∧ ∀ c ∈ cs, isHexDigit c

instance (cs : List Char) (n : Nat) : Decidable (HexOfBytes cs n) :=
  inferInstanceAs (Decidable (_ ∧ _))

theorem cleanPublicKeyResponse_ok_iff (r : JsValue) :
    (∃ pk, cleanPublicKeyResponse r = .ok pk) ↔ ∃ s, r = .string s := by
  cases r <;> simp [cleanPublicKeyResponse, remove0x, Except.map]

theorem remove0x_hex {cs : List Char} (h : ∀ c ∈ cs, isHexDigit c) :
    remove0x (.string ⟨cs⟩) = .ok ⟨cs⟩ := by
  have hx : ∀ rest, ¬ (∃ c, cs = c :: 'x' :: rest ∨ cs = c :: 'X' :: rest) := by
    rintro rest ⟨c, rfl | rfl⟩
    · exact absurd (h 'x' (by simp)) (by decide)
    · exact absurd (h 'X' (by simp)) (by decide)
  simp only [remove0x]
  split
  next rest heq => exact absurd ⟨'0', .inl heq⟩ (hx rest)
  next rest heq => exact absurd ⟨'0', .inr heq⟩ (hx rest)
  next => rfl

theorem toNat_lt_of_isHexDigit {c : Char} (h : isHexDigit c) : c.toNat < 0x10000 := by
  simp only [isHexDigit, Char.isDigit, Bool.or_eq_true, Bool.and_eq_true, decide_eq_true_eq] at h
  have : c.toNat ≤ 102 := by
    rcases h with (⟨_, h⟩ | ⟨_, h⟩) | ⟨_, h⟩
    · exact le_trans (show c.toNat ≤ 57 from h) (by norm_num)
    · exact (h : c.toNat ≤ 102)
    · exact le_trans (show c.toNat ≤ 70 from h) (by norm_num)
  omega

/-- On the hex of 33 bytes, behind a `0x` or `0X` marker or none, cleaning leaves
the digits of the last 32: the first byte, the format flag, is dropped. -/
theorem cleanPublicKeyResponse_flagged {pfx : String} (hp : pfx ∈ ["", "0x", "0X"])
    {cs : List Char} (hcs : HexOfBytes cs 33) :
    cleanPublicKeyResponse (.string ⟨pfx.toList ++ cs⟩) = .ok ⟨cs.drop 2⟩ ∧
      HexOfBytes (cs.drop 2) 32 := by
  refine ⟨?_, by simp [hcs.1], fun c hc => hcs.2 c (List.mem_of_mem_drop hc)⟩
  rw [← dropCodeUnits_of_bmp (fun c hc => toNat_lt_of_isHexDigit (hcs.2 c hc)) 2]
  simp only [List.mem_cons, List.mem_singleton, List.not_mem_nil, or_false] at hp
  rcases hp with rfl | rfl | rfl
  · simp [cleanPublicKeyResponse, remove0x_hex hcs.2, Except.map]
  · rfl
  · rfl

example : cleanPublicKeyResponse (.string "0x00abcd") = .ok "abcd" := by decide

/-! ## Where the keys of a run come from -/

/-- A key the run derived from a custody response it received: the public key
`snap_getBip32PublicKey` answered, or the `publicKey` of a node that
`SLIP10Node.fromJSON` returned, as `cleanPublicKeyResponse` cleans it. -/
def KeyOf (calls : Calls) (publicKey : String) : Prop :=
  ∃ r, ((∃ p, (.getBip32PublicKey p, .ok r) ∈ calls) ∨
    ∃ e node, (.fromJSON e, .ok node) ∈ calls ∧ node.get "publicKey" = .ok r) ∧
    cleanPublicKeyResponse r = .ok publicKey

/-- What a call does with a public key: it encodes, shows as an address, or
places in `pub_key` only a key its run derived. -/
def KeyUse (origin : String) (transaction : JsValue) (calls : Calls) :
    Call × Except JsValue JsValue → Prop
  | (.bechEncodePublicKey pk, _) => KeyOf calls pk
  | (.dialog content, _) => ∃ pk a, KeyOf calls pk ∧ (.bechEncodePublicKey pk, .ok a) ∈ calls ∧
      confirmationPanel origin transaction a = .ok content
  | (.serializeTransaction tx, _) => ∃ pk, KeyOf calls pk ∧ tx.member "pub_key" = .string pk
  | _ => True

theorem KeyOf.of_node {calls : Calls} {publicKey : String} {e node : JsValue}
    (hn : (.fromJSON e, .ok node) ∈ calls) (hk : nodePublicKey node = .ok publicKey) :
    KeyOf calls publicKey := by
  obtain ⟨r, hr, hc⟩ := nodePublicKey_eq hk
  exact ⟨r, .inr ⟨e, node, hn, hr⟩, hc⟩

theorem mem_keys_unsignedTransactionOf {transaction b u : JsValue} {key : String}
    (hu : unsignedTransactionOf transaction b = .ok u) (hk : key ∈ u.ownProps.map Prod.fst) :
    key ∈ transaction.ownProps.map Prod.fst ∨ key = "runtime_msg" := by
  cases hb : arrayFrom b with
  | error e => simp [unsignedTransactionOf, hb] at hu
  | ok runtimeMsg =>
    obtain ⟨t, ht, rfl⟩ : ∃ t, omitKey "call" transaction = .ok t ∧
        u = .object (setProp (spread [] t) "runtime_msg" runtimeMsg) := by
      cases ht : omitKey "call" transaction with
      | error e => simp [unsignedTransactionOf, hb, ht] at hu
      | ok t => exact ⟨t, rfl, by simpa [unsignedTransactionOf, hb, ht] using hu.symm⟩
    refine (mem_keys_setProp hk).imp_left fun hk => ?_
    rcases mem_keys_spread hk with hk | hk
    · cases hk
    unfold omitKey at ht
    split at ht <;> cases ht
    simp only [ownProps, List.mem_map, List.mem_filter] at hk
    obtain ⟨p, ⟨hp, -⟩, rfl⟩ := hk
    exact List.mem_map_of_mem _ hp

theorem signedTransactionOf_pub_key {transaction b u signature s : JsValue} {publicKey : String}
    (hT : TransactionShape transaction) (hu : unsignedTransactionOf transaction b = .ok u)
    (hs : signedTransactionOf publicKey u signature = .ok s) :
    s.member "pub_key" = .string publicKey := by
  have hnot : "pub_key" ∉ u.ownProps.map Prod.fst := fun hk => by
    rcases mem_keys_unsignedTransactionOf hu hk with hk | hk
    · obtain ⟨p, hp, hp1⟩ := List.mem_map.1 hk
      exact absurd (hp1 ▸ hT.keys p hp) (by decide)
    · exact absurd hk (by decide)
  cases hsig : arrayFrom signature with
  | error e => simp [signedTransactionOf, hsig] at hs
  | ok sig =>
    obtain rfl : s = .object (spread [("signature", .object [("msg_sig", sig)]),
        ("pub_key", .string publicKey)] u) := by
      simpa [signedTransactionOf, hsig] using hs.symm
    simp [member, lookup_spread_of_not_mem hnot, lookup]

/-! ## The keys of each handler -/

theorem signTransaction_shape_of_mem {origin : String} {params : JsValue} {env : Env}
    {past : List Event} {x : Call × Except JsValue JsValue}
    (hx : x ∈ Event.calls ((signTransaction origin params).run env past).events) :
    SignParamsShape params := by
  cases hv : validate params signTransactionStruct with
  | error f => simp [signTransaction, hv, Event.calls] at hx
  | ok w => exact (validate_signTransactionStruct params).1 ⟨w, hv⟩

/-- `getAddress` encodes only the cleaned key the custody gateway answered, and
shows and signs nothing. -/
theorem getAddress_keyUse (origin : String) (transaction params : JsValue) (env : Env)
    (past : List Event) :
    ∀ x ∈ Event.calls ((getAddress params).run env past).events,
      KeyUse origin transaction (Event.calls ((getAddress params).run env past).events) x := by
  obtain ⟨hcalls, -⟩ := Follows.run_invariant _ (AddressStage.facts _)
    (fun _ _ _ o h hc => AddressStage.facts_step o h hc) (getAddress_follows_member params) trivial
    env past
  rintro ⟨c, o⟩ hx
  obtain ⟨i, hi⟩ := List.mem_iff_getElem?.1 hx
  obtain ⟨q, hq, hf⟩ := hcalls i _ hi
  cases q <;> simp only [addressProtocol_expect, AddressStage.expect, Option.some.injEq,
    reduceCtorEq] at hq <;> subst hq <;> try trivial
  case address pk =>
    obtain ⟨r, hr, hc⟩ := hf
    exact ⟨r, .inl ⟨_, List.mem_of_mem_take hr⟩, hc⟩

/-- `signTransaction` encodes, shows and signs in only the cleaned key of the node
it decoded. -/
theorem signTransaction_keyUse (origin : String) (params : JsValue) (env : Env) (past : List Event) :
    ∀ x ∈ Event.calls ((signTransaction origin params).run env past).events,
      KeyUse origin (params.member "transaction")
        (Event.calls ((signTransaction origin params).run env past).events) x := by
  obtain ⟨hcalls, -⟩ := Follows.run_invariant _
    (SignStage.flow origin (params.member "transaction")) (fun _ _ _ o h hc => flow_step o h hc)
    (signTransaction_follows_member origin params) ⟨fun _ h => by simp at h, trivial⟩ env past
  rintro ⟨c, o⟩ hx
  obtain ⟨i, hi⟩ := List.mem_iff_getElem?.1 hx
  obtain ⟨q, hq, -, hf⟩ := hcalls i _ hi
  have hs : _ ⊆ Event.calls ((signTransaction origin params).run env past).events :=
    (List.take_sublist i _).subset
  cases q <;> simp only [signProtocol_expect, SignStage.expect, Option.some.injEq,
    reduceCtorEq] at hq <;> subst hq <;> try trivial
  case address n pk =>
    obtain ⟨e, hn, hk⟩ := hf
    exact KeyOf.of_node (hs hn) hk
  case approval n pk content =>
    obtain ⟨e, a, hn, hk, hb, hpanel⟩ := hf
    exact ⟨pk, a, KeyOf.of_node (hs hn) hk, hs hb, hpanel⟩
  case signed s =>
    obtain ⟨pk, u, m, k, sig, ⟨e, node, -, -, -, hn, hk, -⟩, ⟨-, b, -, -, hu⟩, -, -, hsigned⟩ := hf
    exact ⟨pk, KeyOf.of_node (hs hn) hk,
      signedTransactionOf_pub_key (signTransaction_shape_of_mem hx).transaction hu hsigned⟩

/-! ## The keys of a request -/

/-- Every key a request encodes, shows as an address or places in `pub_key` is a
custody response it received, cleaned; only a string response is cleaned, and
any string is; on the hex of a flagged 33-byte key, the key's 64 digits are left. -/
theorem onRpcRequest_public_key (origin : String) (request : Request) (env : Env)
    (past : List Event) :
    (∀ x ∈ Event.calls ((onRpcRequest origin request).run env past).events,
      KeyUse origin (request.params.member "transaction")
        (Event.calls ((onRpcRequest origin request).run env past).events) x) ∧
    (∀ r, (∃ pk, cleanPublicKeyResponse r = .ok pk) ↔ ∃ s, r = .string s) ∧
    ∀ pfx ∈ ["", "0x", "0X"], ∀ cs, HexOfBytes cs 33 →
      cleanPublicKeyResponse (.string ⟨pfx.toList ++ cs⟩) = .ok ⟨cs.drop 2⟩ ∧
        HexOfBytes (cs.drop 2) 32 := by
  refine ⟨?_, cleanPublicKeyResponse_ok_iff, fun _ hp _ hcs => cleanPublicKeyResponse_flagged hp hcs⟩
  unfold onRpcRequest
  split
  · exact getAddress_keyUse origin _ request.params env past
  · exact signTransaction_keyUse origin request.params env past
  · simp [Event.calls]

def unflaggedKey : List Char := List.replicate 64 'a'

/-- A custody gateway that answers the key of `unflaggedKey`, and an encoder. -/
def unflaggedAnswers : Call → Except JsValue JsValue
  | .getBip32PublicKey _ => .ok (.string ⟨'0' :: 'x' :: unflaggedKey⟩)
  | .bechEncodePublicKey _ => .ok (.string "sov1")
  | _ => .ok .undefined

/-- A 32-byte key without its flag byte is not refused: `getAddress` encodes its
digits cut short by one byte and returns the address. -/
theorem getAddress_encodes_unflagged_key :
    HexOfBytes unflaggedKey 32 ∧ (unflaggedKey.drop 2).length = 62 ∧
      ((onRpcRequest "localhost" ⟨"getAddress", keyIdZeroParams⟩).run
        (Env.ofAnswers unflaggedAnswers) []).result = .ok (.string "sov1") ∧
      (.bechEncodePublicKey ⟨unflaggedKey.drop 2⟩, .ok (.string "sov1")) ∈
        Event.calls ((onRpcRequest "localhost" ⟨"getAddress", keyIdZeroParams⟩).run
          (Env.ofAnswers unflaggedAnswers) []).events := by
  decide

end SovereignSnap
