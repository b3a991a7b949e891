import SovereignSnap.Site.Page

/-! # What the page asks of the snap

Every call the page makes comes from a state whose fields are as the inputs leave
them, and the snap's structs accept it exactly when its numbers are finite.
-/

namespace SovereignSnap

open Js JsValue

/-- What a call the page made carries: a key id that is a natural, the params of a
state whose fields are read and of its parsed call message, or a sequencer post
of the base64 of bytes read from a transaction. -/
def Page.OutgoingOk (parseJson : String → Except JsValue JsValue) : Outgoing → Prop
  | .invokeSnap method params =>
    (method = "getAddress" ∧ ∃ x, x.IsNatural ∧ params = .object [("keyId", .number x)]) ∨
    (method = "signTransaction" ∧ ∃ state msg, SovereignSnap.FieldsRead state ∧
      parseJson state.callMessage = .ok msg ∧ params = signParams state msg)
  | .fetch url body => ∃ sequencer tx bytes, sequencer ≠ "" ∧ hexToBytes tx = .ok bytes ∧
    ((url = trimTrailingSlash sequencer ++ "/" ++ "txs" ∧
        body = (JsValue.string (bytesToBase64 bytes)).stringifyText) ∨
      (url = trimTrailingSlash sequencer ++ "/" ++ "batches" ∧
        body = (JsValue.object [("transactions", .array [.string (bytesToBase64 bytes)])]).stringifyText))

/-- Every call the page has made is as `OutgoingOk` says, and its fields are read. -/
def Page.SentOk (parseJson : String → Except JsValue JsValue) (page : Page) : Prop :=
  page.FieldsRead ∧ ∀ o ∈ page.sent, Page.OutgoingOk parseJson o

theorem Page.submit_sent (page : Page) (body : String → String) (endpoint : String) :
    (page.submit body endpoint).sent = page.sent ∨
      ∃ sequencer data, page.state.tx.truthy ∧ hexToBytes page.state.tx = .ok data ∧ sequencer ≠ "" ∧
        (page.submit body endpoint).sent =
          page.sent ++ [.fetch (trimTrailingSlash sequencer ++ "/" ++ endpoint) (body (bytesToBase64 data))] := by
  unfold Page.submit Page.submitSequencer
  split
  · rename_i htruthy
    split
    · rename_i data hdata
      split
      · split
        · exact .inr ⟨_, data, htruthy, hdata, ‹_›, rfl⟩
        · exact .inl rfl
      · exact .inl rfl
    · exact .inl rfl
  · exact .inl rfl

section Sent

variable {parseJson : String → Except JsValue JsValue}

theorem Page.SentOk.send {page : Page} (h : page.SentOk parseJson) {o : Outgoing}
    (ho : Page.OutgoingOk parseJson o) : ∀ o' ∈ page.sent ++ [o], Page.OutgoingOk parseJson o' :=
  fun o' hm => (List.mem_append.1 hm).elim (h.2 o') fun h' => List.mem_singleton.1 h' ▸ ho

theorem Page.SentOk.submit {page : Page} (h : page.SentOk parseJson) (body : String → String)
    (endpoint : String) (hb : ∀ sequencer tx bytes, sequencer ≠ "" → hexToBytes tx = .ok bytes →
      Page.OutgoingOk parseJson
        (.fetch (trimTrailingSlash sequencer ++ "/" ++ endpoint) (body (bytesToBase64 bytes)))) :
    ∀ o ∈ (page.submit body endpoint).sent, Page.OutgoingOk parseJson o := by
  rcases page.submit_sent body endpoint with hs | ⟨sequencer, data, -, hdata, hne, hs⟩ <;> rw [hs]
  · exact h.2
  · exact h.send (hb _ _ _ hne hdata)

/-- Each event keeps every call the page made as `OutgoingOk` says. -/
theorem Page.SentOk.step {page page' : Page} (h : page.SentOk parseJson) {e : PageEvent}
    (he : page.step parseJson e = some page') : page'.SentOk parseJson := by
  refine ⟨h.1.step he, ?_⟩
  cases e with
  | input i => exact Option.some.inj he ▸ h.2
  | settle k outcome =>
    simp only [Page.step, Option.map_eq_some'] at he
    obtain ⟨p, -, rfl⟩ := he
    exact h.2
  | click b =>
    cases b <;> simp only [Page.step, Option.some.injEq] at he <;> subst he
    case getAddress =>
      obtain ⟨x, hx, hc⟩ := h.1.1.keyId
      exact h.send (.inl ⟨rfl, x, hc, by simp [numberField, hx]⟩)
    case sign =>
      unfold Page.signClick
      split
      · exact h.send (.inr ⟨rfl, _, _, h.1.1, ‹_›, rfl⟩)
      · exact h.2
    case submitTx => exact h.submit _ _ fun _ _ _ hs hx => ⟨_, _, _, hs, hx, .inl ⟨rfl, rfl⟩⟩
    case submitBatch => exact h.submit _ _ fun _ _ _ hs hx => ⟨_, _, _, hs, hx, .inr ⟨rfl, rfl⟩⟩

theorem Page.SentOk.of_run {page page' : Page} (h : page.SentOk parseJson) {events : List PageEvent}
    (he : page.run parseJson events = some page') : page'.SentOk parseJson := by
  induction events generalizing page with
  | nil => exact Option.some.inj he ▸ h
  | cons e events ih =>
    simp only [Page.run, Option.bind_eq_some] at he
    obtain ⟨mid, hmid, hrest⟩ := he
    exact ih (h.step hmid) hrest

theorem sentOk_initialPage : initialPage.SentOk parseJson := ⟨fieldsRead_initialPage, fun _ => nofun⟩

end Sent

/-! ## What the snap receives -/

theorem Js.JsNumber.isFinite_of_asNat {x : JsNumber} {n : Nat} (h : x.asNat? = some n) : x.isFinite := by
  cases x <;> simp_all [JsNumber.asNat?, JsNumber.isFinite]

theorem getAddress_params_transport (x : JsNumber) :
    ∃ p, transport (.object [("keyId", .number x)]) = some p ∧
      ((∃ w, validate p getAddressStruct = .ok w) ↔ x.isFinite) ∧
      (x.isFinite → (p.member "keyId").toStr = x.toString) := by
  refine ⟨_, rfl, ?_, ?_⟩
  · rw [validate_getAddressStruct]
    cases x <;> simp [transport, transportMembers, member, lookup, isObject, IsNumber,
      JsNumber.isFinite, JsNumber.isNaN]
  · cases x <;> simp [transport, transportMembers, member, lookup, toStr, JsNumber.toString,
      JsNumber.isFinite]

/-- Over every interleaving of edits, clicks and completions from the initial
page, every Get Address request the page sent reaches the snap with a key id that
is a natural `n`, as the number input reports only numerals of finite doubles:
`GetAddressStruct` admits it, and the key is derived at `m/44'/1551'/k'` where
`k` is the key id as JavaScript prints it, the decimal numeral of `n` below
`10 ^ 21`. Every Sign request carries the params of a state whose fields are as
the inputs leave them and of its parsed call message, and
`SignTransactionStruct` admits it exactly when all the state's numbers are
finite and the message comes through as an object. -/
theorem page_requests_reach_snap (parseJson : String → Except JsValue JsValue)
    (events : List PageEvent) {page : Page} (hrun : initialPage.run parseJson events = some page) :
    (∀ params, .invokeSnap "getAddress" params ∈ page.sent → ∃ (x : JsNumber) (n : Nat) (p : JsValue),
      x.asNat? = some n ∧ transport params = some p ∧ (∃ w, validate p getAddressStruct = .ok w) ∧
      (getKeypairParams (p.member "keyId")).member "path" =
        .array [.string "m", .string "44'", .string "1551'", .string (x.toString ++ "'")] ∧
      (n < 10 ^ 21 → x.toString = Nat.repr n)) ∧
    ∀ params, .invokeSnap "signTransaction" params ∈ page.sent → ∃ state msg, FieldsRead state ∧
      parseJson state.callMessage = .ok msg ∧ params = signParams state msg ∧
      ((∃ p w, transport params = some p ∧ validate p signTransactionStruct = .ok w) ↔
        Sendable state ∧ ((transport msg).getD .undefined).isObject) := by
  have hsent := (sentOk_initialPage.of_run hrun).2
  refine ⟨fun params hp => ?_, fun params hp => ?_⟩
  · rcases hsent _ hp with ⟨-, x, ⟨n, hn⟩, rfl⟩ | ⟨h, -⟩
    · obtain ⟨p, htp, hval, hstr⟩ := getAddress_params_transport x
      have hfin := JsNumber.isFinite_of_asNat hn
      refine ⟨x, n, p, hn, htp, hval.2 hfin, ?_, JsNumber.toString_of_asNat hn⟩
      show JsValue.array [.string "m", .string "44'", .string "1551'",
        .string ((p.member "keyId").toStr ++ "'")] = _
      rw [hstr hfin]
    · exact absurd h (by decide)
  · rcases hsent _ hp with ⟨h, -⟩ | ⟨-, state, msg, hf, hmsg, rfl⟩
    · exact absurd h (by decide)
    · exact ⟨state, msg, hf, hmsg, rfl, signParams_accepted_iff_of state msg⟩

theorem page_requests_reach_snap_after_two_clicks :
    initialPage.run (fun _ => .ok (.object [])) [.click .getAddress, .click .sign] =
        some ⟨initialState, [⟨.address, initialState⟩, ⟨.signature, initialState⟩],
          [.invokeSnap "getAddress" (.object [("keyId", numberField initialState.keyId)]),
            .invokeSnap "signTransaction" (signParams initialState (.object []))]⟩ ∧
      (∀ params, .invokeSnap "getAddress" params ∈ [Outgoing.invokeSnap "getAddress"
          (.object [("keyId", numberField initialState.keyId)]),
          .invokeSnap "signTransaction" (signParams initialState (.object []))] →
        ∃ (x : JsNumber) (n : Nat) (p : JsValue), x.asNat? = some n ∧ transport params = some p ∧
          (∃ w, validate p getAddressStruct = .ok w) ∧
          (getKeypairParams (p.member "keyId")).member "path" =
            .array [.string "m", .string "44'", .string "1551'", .string (x.toString ++ "'")] ∧
          (n < 10 ^ 21 → x.toString = Nat.repr n)) ∧
      ∀ params, .invokeSnap "signTransaction" params ∈ [Outgoing.invokeSnap "getAddress"
          (.object [("keyId", numberField initialState.keyId)]),
          .invokeSnap "signTransaction" (signParams initialState (.object []))] →
        ∃ state msg, FieldsRead state ∧ (fun _ => .ok (.object []) : String → Except JsValue JsValue)
          state.callMessage = .ok msg ∧ params = signParams state msg ∧
          ((∃ p w, transport params = some p ∧ validate p signTransactionStruct = .ok w) ↔
            Sendable state ∧ ((transport msg).getD .undefined).isObject) :=
  have hrun : initialPage.run (fun _ => .ok (.object [])) [.click .getAddress, .click .sign] =
      some ⟨initialState, [⟨.address, initialState⟩, ⟨.signature, initialState⟩],
        [.invokeSnap "getAddress" (.object [("keyId", numberField initialState.keyId)]),
          .invokeSnap "signTransaction" (signParams initialState (.object []))]⟩ := rfl
  ⟨hrun, page_requests_reach_snap _ _ hrun⟩

end SovereignSnap
