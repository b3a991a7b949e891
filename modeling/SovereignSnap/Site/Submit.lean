import SovereignSnap.Site.Page
import SovereignSnap.Protocol.Assembly

/-! # From the signature to the sequencer

Submit posts `bytesToBase64(hexToBytes(tx))`, from which the serialized
transaction of the signing run can be read back.
-/

namespace SovereignSnap

open Js JsValue Script Protocol

/-! ## Hex read back -/

theorem uint8_ofNat_toNat (b : UInt8) : UInt8.ofNat b.toNat = b := by
  apply UInt8.eq_of_val_eq
  simp [UInt8.ofNat, UInt8.toNat, Fin.ofNat]

theorem uint8_toNat_lt (b : UInt8) : b.toNat < 256 := UInt8.toNat_lt_size b

theorem hexDigit_spec : ∀ d < 16, isHexDigit (hexDigit d) ∧ (hexDigit d).toLower = hexDigit d ∧
    hexValue (hexDigit d) = d := by
  decide

theorem hexPairs_flatMap (bs : List UInt8) :
    hexPairs (bs.flatMap fun b => [hexDigit (b.toNat / 16), hexDigit (b.toNat % 16)]) = bs := by
  induction bs with
  | nil => rfl
  | cons b bs ih =>
    have hlt := uint8_toNat_lt b
    have hhigh := (hexDigit_spec (b.toNat / 16) (by omega)).2.2
    have hlow := (hexDigit_spec (b.toNat % 16) (by omega)).2.2
    rw [List.flatMap_cons, List.cons_append, List.cons_append, List.nil_append, hexPairs, hhigh, hlow, ih,
      Nat.div_add_mod', uint8_ofNat_toNat]

theorem length_hexPairs_digits (bs : List UInt8) :
    (bs.flatMap fun b => [hexDigit (b.toNat / 16), hexDigit (b.toNat % 16)]).length = 2 * bs.length := by
  induction bs with
  | nil => rfl
  | cons b bs ih =>
    rw [List.flatMap_cons, List.length_append, ih]
    simp only [List.length_cons, List.length_nil]
    omega

/-- `hexToBytes` reads back the bytes of every hex string `bytesToHex` writes. -/
theorem hexToBytes_of_bytesToHex {v : JsValue} {hex : String} (hv : bytesToHex v = .ok hex) :
    ∃ bs, v = .bytes bs ∧ hexToBytes (.string hex) = .ok bs := by
  cases v with
  | bytes bs =>
    obtain rfl := (Except.ok.inj hv).symm
    refine ⟨bs, rfl, ?_⟩
    set digits := bs.flatMap fun b => [hexDigit (b.toNat / 16), hexDigit (b.toNat % 16)]
    have hspec : ∀ c ∈ digits, isHexDigit c ∧ c.toLower = c := by
      simp only [digits, List.mem_flatMap, List.mem_cons, List.mem_singleton, List.not_mem_nil, or_false]
      rintro c ⟨b, -, rfl | rfl⟩ <;> have := uint8_toNat_lt b <;>
        exact ⟨(hexDigit_spec _ (by omega)).1, (hexDigit_spec _ (by omega)).2.1⟩
    have hlower : digits.map Char.toLower = digits := by
      conv_rhs => rw [← List.map_id digits]
      exact List.map_congr_left fun c hc => (hspec c hc).2
    have hlen : digits.length = 2 * bs.length := length_hexPairs_digits bs
    cases bs with
    | nil => rfl
    | cons b bs =>
      have hne : digits ≠ [] := by simp [digits]
      have hnot : ('0' :: 'x' :: digits).map Char.toLower ≠ ['0', 'x'] := by
        simpa using hne
      simp only [hexToBytes, String.toList, hnot, if_false, hlower]
      rw [if_pos ⟨hne, List.all_eq_true.2 fun c hc => (hspec c hc).1⟩, if_pos (by omega)]
      exact congrArg Except.ok (hexPairs_flatMap _)
  | _ => cases hv

/-- The hex the snap answers with, `bytesToHex` of the bytes its codec
serialized, is read back by the page's `hexToBytes` as those same bytes,
whatever they are. -/
theorem hexToBytes_bytesToHex (bs : List UInt8) :
    ∃ hex, bytesToHex (.bytes bs) = .ok hex ∧ hexToBytes (.string hex) = .ok bs := by
  obtain ⟨bs', hb, hread⟩ := hexToBytes_of_bytesToHex (v := .bytes bs) rfl
  exact ⟨_, rfl, JsValue.bytes.inj hb ▸ hread⟩

/-! ## Base64 read back -/

def base64Index (c : Char) : Nat :=
  "ABCDEFGHIJKLMNOPQRSTUVWXYZabcdefghijklmnopqrstuvwxyz0123456789+/".toList.indexOf c

/-- Four digit values to three bytes; a last group of three or two values, whose
padding is gone, to two bytes or one. -/
def base64Groups : List Nat → List UInt8
  | a :: b :: c :: d :: rest =>
    let n := a * 262144 + b * 4096 + c * 64 + d
    UInt8.ofNat (n / 65536) :: UInt8.ofNat (n / 256 % 256) :: UInt8.ofNat (n % 256) :: base64Groups rest
  | [a, b, c] =>
    let n := a * 262144 + b * 4096 + c * 64
    [UInt8.ofNat (n / 65536), UInt8.ofNat (n / 256 % 256)]
  | [a, b] => [UInt8.ofNat (a * 4 + b / 16)]
  | _ => []

/-- Base64 decoding: the padding dropped, each digit read as its value. -/
def base64Decode (s : String) : List UInt8 :=
  base64Groups ((s.toList.filter (· ≠ '=')).map base64Index)

theorem base64Digit_spec : ∀ n < 64, base64Index (base64Digit n) = n ∧ base64Digit n ≠ '=' := by
  decide

theorem base64Index_base64Digit {n : Nat} (h : n < 64) : base64Index (base64Digit n) = n :=
  (base64Digit_spec n h).1

theorem base64Digit_ne_pad {n : Nat} (h : n < 64) : base64Digit n ≠ '=' := (base64Digit_spec n h).2

theorem uint8_ofNat_eq {n : Nat} {b : UInt8} (h : n = b.toNat) : UInt8.ofNat n = b :=
  h ▸ uint8_ofNat_toNat b

theorem base64Decode_bytesToBase64 (bs : List UInt8) : base64Decode (bytesToBase64 bs) = bs := by
  show base64Groups (((base64Chars bs).filter (· ≠ '=')).map base64Index) = bs
  induction bs using base64Chars.induct with
  | case1 a b c rest ih =>
    have ha := uint8_toNat_lt a
    have hb := uint8_toNat_lt b
    have hc := uint8_toNat_lt c
    simp (disch := omega) only [base64Chars, List.cons_append, List.nil_append, List.filter_cons,
      base64Digit_ne_pad, ne_eq, not_false_eq_true, decide_True, if_true, List.map_cons,
      base64Index_base64Digit, base64Groups, ih]
    exact congrArg₂ List.cons (uint8_ofNat_eq (by omega))
      (congrArg₂ List.cons (uint8_ofNat_eq (by omega)) (congrArg₂ List.cons (uint8_ofNat_eq (by omega)) rfl))
  | case2 a b =>
    have ha := uint8_toNat_lt a
    have hb := uint8_toNat_lt b
    simp (disch := omega) only [base64Chars, List.filter_cons, List.filter_nil, base64Digit_ne_pad, ne_eq,
      not_false_eq_true, not_true_eq_false, decide_True, decide_False, if_true, List.map_cons,
      List.map_nil, base64Index_base64Digit, base64Groups, Bool.false_eq_true, if_false]
    exact congrArg₂ List.cons (uint8_ofNat_eq (by omega)) (congrArg₂ List.cons (uint8_ofNat_eq (by omega)) rfl)
  | case3 a =>
    have ha := uint8_toNat_lt a
    simp (disch := omega) only [base64Chars, List.filter_cons, List.filter_nil, base64Digit_ne_pad, ne_eq,
      not_false_eq_true, not_true_eq_false, decide_True, decide_False, if_true, List.map_cons,
      List.map_nil, base64Index_base64Digit, base64Groups, Bool.false_eq_true, if_false]
    exact congrArg₂ List.cons (uint8_ofNat_eq (by omega)) rfl
  | case4 => rfl

/-- Distinct byte strings have distinct base64 texts: the body Submit posts
determines the transaction's bytes. -/
theorem bytesToBase64_injective : Function.Injective bytesToBase64 := fun bs bs' h => by
  rw [← base64Decode_bytesToBase64 bs, h, base64Decode_bytesToBase64]

/-! ## The snap's answer, stored and submitted -/

/-- A signing run that returns answers the hex of the bytes its codec's
`serializeTransaction` returned, for the transaction it signed. -/
theorem signTransaction_result_bytes (origin : String) (params : JsValue) (env : Env)
    (past : List Event) {r : JsValue} (hr : ((signTransaction origin params).run env past).result = .ok r) :
    ∃ s bs hex, r = .string hex ∧
      (.serializeTransaction s, .ok (.bytes bs)) ∈ Event.calls ((signTransaction origin params).run env past).events ∧
      Signed origin (params.member "transaction")
        (Event.calls ((signTransaction origin params).run env past).events) s ∧
      bytesToHex (.bytes bs) = .ok hex := by
  obtain ⟨-, q, ⟨-, hfacts⟩, hres⟩ := Follows.run_invariant _
    (SignStage.flow origin (params.member "transaction")) (fun _ _ _ o h hc => flow_step o h hc)
    (signTransaction_follows_member origin params) ⟨fun _ h => by simp at h, trivial⟩ env past
  rw [hr, signProtocol_result] at hres
  cases q <;> simp only [SignStage.result] at hres
  obtain ⟨s, tx, hs, hm, hh⟩ := hfacts
  obtain ⟨bs, rfl, -⟩ := hexToBytes_of_bytesToHex hh
  exact ⟨s, bs, _, Except.ok.inj hres, hm, hs, hh⟩

theorem isEmpty_cons (c : Char) (cs : List Char) : (⟨c :: cs⟩ : String).isEmpty = false :=
  Bool.eq_false_iff.2 fun h => List.cons_ne_nil c cs (congrArg String.data ((String.isEmpty_iff _).1 h))

theorem Page.submit_of_hex (page : Page) (body : String → String) (endpoint : String) {bs : List UInt8}
    {hex : String} (hh : bytesToHex (.bytes bs) = .ok hex) (htx : page.state.tx = .string hex)
    {sequencer : String} (hseq : page.state.sequencer = some sequencer) (hne : sequencer ≠ "") :
    (page.submit body endpoint).sent =
      page.sent ++ [.fetch (trimTrailingSlash sequencer ++ "/" ++ endpoint) (body (bytesToBase64 bs))] := by
  obtain ⟨bs', hb, hread⟩ := hexToBytes_of_bytesToHex hh
  obtain rfl := (JsValue.bytes.inj hb).symm
  obtain rfl := (Except.ok.inj hh).symm
  simp [Page.submit, Page.submitSequencer, htx, hread, hseq, hne, truthy, isEmpty_cons]

theorem Page.settle_signature (page : Page) (k : Nat) {p : Pending} (hsig : p.awaiting = .signature)
    (hex : String) : (page.settle k p (.ok (.string hex))).state = { p.captured with tx := .string hex } ∧
      (page.settle k p (.ok (.string hex))).sent = page.sent := by
  obtain ⟨a, captured⟩ := p
  subst hsig
  exact ⟨rfl, rfl⟩

/-- When the snap signs, its answer, once it has come through MetaMask's JSON
transport and settled the page's Sign request, makes Submit Tx and Submit Batch
post a base64 text that decodes to the bytes the codec's `serializeTransaction`
returned in that run, to the sequencer the Sign click saw, whatever else is in
flight. -/
theorem submit_posts_serialized_transaction (parseJson : String → Except JsValue JsValue)
    (origin : String) (params : JsValue) (env : Env) (past : List Event) {r : JsValue}
    (hr : ((onRpcRequest origin ⟨"signTransaction", params⟩).run env past).result = .ok r)
    {page : Page} {k : Nat} {p : Pending} (hk : page.pending[k]? = some p) (hsig : p.awaiting = .signature)
    {sequencer : String} (hseq : p.captured.sequencer = some sequencer) (hne : sequencer ≠ "") :
    ∃ s bs answer b64, (.serializeTransaction s, .ok (.bytes bs)) ∈
        Event.calls ((onRpcRequest origin ⟨"signTransaction", params⟩).run env past).events ∧
      transport r = some answer ∧ base64Decode b64 = bs ∧
      (page.run parseJson [.settle k (.ok answer), .click .submitTx]).map Page.sent =
        some (page.sent ++ [.fetch (trimTrailingSlash sequencer ++ "/" ++ "txs") (JsValue.string b64).stringifyText]) ∧
      (page.run parseJson [.settle k (.ok answer), .click .submitBatch]).map Page.sent =
        some (page.sent ++ [.fetch (trimTrailingSlash sequencer ++ "/" ++ "batches")
          (JsValue.object [("transactions", .array [.string b64])]).stringifyText]) := by
  obtain ⟨s, bs, hex, rfl, hm, -, hh⟩ := signTransaction_result_bytes origin params env past hr
  obtain ⟨hstate, hsent⟩ := page.settle_signature k hsig hex
  have htx : (page.settle k p (.ok (.string hex))).state.tx = .string hex := by rw [hstate]
  have hseq' : (page.settle k p (.ok (.string hex))).state.sequencer = some sequencer := by rw [hstate]; exact hseq
  refine ⟨s, bs, .string hex, bytesToBase64 bs, hm, rfl, base64Decode_bytesToBase64 bs, ?_, ?_⟩ <;>
  · simp only [Page.run, Page.step, hk, Option.map_some', Option.some_bind]
    rw [Page.submit_of_hex _ _ _ hh htx hseq' hne, hsent]

theorem submit_posts_serialized_transaction_of_test_params :
    ((onRpcRequest "localhost" ⟨"signTransaction", testSignParams⟩).run
        (Env.ofAnswers (approvingAnswers "0x01")) []).result = .ok (.string "0x03") ∧
      ∃ s bs answer b64, (.serializeTransaction s, .ok (.bytes bs)) ∈
          Event.calls ((onRpcRequest "localhost" ⟨"signTransaction", testSignParams⟩).run
            (Env.ofAnswers (approvingAnswers "0x01")) []).events ∧
        transport (.string "0x03") = some answer ∧ base64Decode b64 = bs ∧
        (Page.run (fun _ => .ok (.object [])) ⟨initialState, [⟨.signature, initialState⟩], []⟩
            [.settle 0 (.ok answer), .click .submitTx]).map Page.sent =
          some [.fetch (trimTrailingSlash "http://localhost:12346/sequencer/" ++ "/" ++ "txs")
            (JsValue.string b64).stringifyText] ∧
        (Page.run (fun _ => .ok (.object [])) ⟨initialState, [⟨.signature, initialState⟩], []⟩
            [.settle 0 (.ok answer), .click .submitBatch]).map Page.sent =
          some [.fetch (trimTrailingSlash "http://localhost:12346/sequencer/" ++ "/" ++ "batches")
            (JsValue.object [("transactions", .array [.string b64])]).stringifyText] :=
  have hr : ((onRpcRequest "localhost" ⟨"signTransaction", testSignParams⟩).run
      (Env.ofAnswers (approvingAnswers "0x01")) []).result = .ok (.string "0x03") := by decide
  ⟨hr, @submit_posts_serialized_transaction (fun _ => .ok (.object [])) _ _ _ _ _ hr
    ⟨initialState, [⟨.signature, initialState⟩], []⟩ 0 _ rfl rfl _ rfl (by decide)⟩

end SovereignSnap
