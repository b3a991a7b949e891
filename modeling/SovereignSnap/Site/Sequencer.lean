import SovereignSnap.Site.History
import SovereignSnap.Site.Requests
import SovereignSnap.Site.Submit

/-! # What the sequencer receives

Every post carries the bytes the wallet's run of the snap for one of the run's
Sign clicks serialized as its signed transaction.
-/

namespace SovereignSnap

open Js JsValue Script Protocol

section Snap

variable (wallet : Pending → String × Env × List Event) (parseJson : String → Except JsValue JsValue)

/-- The wallet's run of the snap for a request in flight: the origin it reports,
and the collaborators and history it runs the request against, are its choice
for that request. -/
def Pending.snapRun (p : Pending) (method : String) (params : JsValue) : Run JsValue :=
  (onRpcRequest (wallet p).1 ⟨method, params⟩).run (wallet p).2.1 (wallet p).2.2

/-- Bytes of the wallet's run for the Sign request sent from `state`: the codec
returned them for that run's signed transaction, and the run answered their hex. -/
def SerializedFor (state : SovereignState) (bs : List UInt8) : Prop :=
  ∃ msg params s hex, parseJson state.callMessage = .ok msg ∧
    transport (signParams state msg) = some params ∧
    ((⟨.signature, state⟩ : Pending).snapRun wallet "signTransaction" params).result = .ok (.string hex) ∧
    bytesToHex (.bytes bs) = .ok hex ∧
    (.serializeTransaction s, .ok (.bytes bs)) ∈
      Event.calls ((⟨.signature, state⟩ : Pending).snapRun wallet "signTransaction" params).events ∧
    Signed (wallet ⟨.signature, state⟩).1 (params.member "transaction")
      (Event.calls ((⟨.signature, state⟩ : Pending).snapRun wallet "signTransaction" params).events) s

/-- The wallet hands a request in flight the JSON transport of what its run of
the snap on the request's params returned. -/
def Pending.SnapSigned (p : Pending) (answer : JsValue) : Prop :=
  ∃ msg params r, parseJson p.captured.callMessage = .ok msg ∧
    transport (signParams p.captured msg) = some params ∧
    (p.snapRun wallet "signTransaction" params).result = .ok r ∧ transport r = some answer

variable {wallet parseJson}

theorem Pending.SnapSigned.read {p : Pending} {answer : JsValue} (h : p.SnapSigned wallet parseJson answer)
    (hsig : p.awaiting = .signature) :
    ∃ hex bs, answer = .string hex ∧ hexToBytes (.string hex) = .ok bs ∧
      SerializedFor wallet parseJson p.captured bs := by
  obtain ⟨_, captured⟩ := p
  obtain rfl : _ = Awaiting.signature := hsig
  obtain ⟨msg, params, r, hmsg, hparams, hr, ht⟩ := h
  obtain ⟨s, bs, hex, rfl, hm, hs, hh⟩ := signTransaction_result_bytes _ params _ _ hr
  obtain ⟨bs', hb, hread⟩ := hexToBytes_of_bytesToHex hh
  obtain rfl := JsValue.bytes.inj hb
  exact ⟨hex, bs, (Option.some.inj ht).symm, hread, msg, params, s, hex, hmsg, hparams, hr, hh, hm, hs⟩

end Snap

/-! ## What each event writes -/

theorem Input.apply_outputs (i : Input) (state : SovereignState) :
    (i.apply state).tx = state.tx ∧ (i.apply state).address = state.address := by
  cases i <;> simp only [Input.apply, onKeyIdChange, onNonceChange, onChainIdChange,
    onMaxPriorityFeeChange, onMaxFeeChange, onNumberChange, onGasLimitChange, onCallMessageChange,
    onSequencerChange] <;> (try split_ifs) <;> trivial

theorem catchStatus_eq {captured state : SovereignState} {er : JsValue}
    (h : catchStatus captured er = some state) : ∃ v, state = { captured with status := v } := by
  unfold catchStatus at h
  split at h <;> cases h
  exact ⟨_, rfl⟩

theorem Page.click_state (parseJson : String → Except JsValue JsValue) (page : Page) (b : Button)
    {page' : Page} (he : page.step parseJson (.click b) = some page') :
    page'.state = page.state ∨ ∃ v, page'.state = { page.state with status := v } := by
  cases b <;> simp only [Page.step, Option.some.injEq] at he <;> subst he
  case getAddress => exact .inl rfl
  case sign =>
    unfold Page.signClick
    split
    · exact .inl rfl
    · rename_i er _
      cases hc : catchStatus page.state er
      · exact .inl rfl
      · exact .inr (catchStatus_eq hc)
  all_goals
    unfold Page.submit Page.submitSequencer
    split
    · split
      · split <;> (try split) <;> first | exact .inl rfl | exact .inr ⟨_, rfl⟩
      · exact .inl rfl
    · exact .inl rfl

/-- What a completion writes into the state its request closed over: the status,
the answer of a Get Address request as the address, or that of a Sign request,
or the empty string, as the transaction. -/
theorem Page.settleWith_writes (p : Pending) (outcome : Except JsValue JsValue) {state : SovereignState}
    (h : (Page.settleWith p outcome).1 = some state) :
    (∃ v, state = { p.captured with status := v }) ∨
      (∃ res, p.awaiting = .address ∧ outcome = .ok res ∧ state = { p.captured with address := res }) ∨
      ∃ res, p.awaiting = .signature ∧ outcome = .ok res ∧
        state = { p.captured with tx := nullish res (.string "") } := by
  obtain ⟨a, captured⟩ := p
  cases outcome <;> cases a <;> simp only [Page.settleWith, Option.some.injEq, reduceCtorEq] at h
  case ok.address res => exact .inr (.inl ⟨res, rfl, rfl, h.symm⟩)
  case ok.signature res => exact .inr (.inr ⟨res, rfl, rfl, h.symm⟩)
  case ok.responseData res => exact .inl ⟨res, h.symm⟩
  case ok.response res =>
    split at h
    · split at h <;> simp only [Option.some.injEq, reduceCtorEq] at h
      exact .inl ⟨_, h.symm⟩
    · exact .inl (catchStatus_eq h)
  all_goals exact .inl (catchStatus_eq h)

/-! ## Transactions and posts of a kind of bytes -/

section Bytes

variable (G : List UInt8 → Prop)

/-- Whatever a state's transaction reads as, when Submit would read it, is bytes
of the kind `G`. -/
def TxIn (state : SovereignState) : Prop :=
  state.tx.truthy → ∀ data, hexToBytes state.tx = .ok data → G data

/-- A post to the sequencer of the base64 of bytes of the kind `G`, that base64
decoding reads back. -/
def PostsIn (body : String) : Prop :=
  ∃ bs b64, G bs ∧ base64Decode b64 = bs ∧
    (body = (JsValue.string b64).stringifyText ∨
      body = (JsValue.object [("transactions", .array [.string b64])]).stringifyText)

/-- Every state of the page reads its transaction as bytes of the kind `G`, and
every post it made carries such bytes. -/
def Page.TxBytes (page : Page) : Prop :=
  TxIn G page.state ∧ (∀ p ∈ page.pending, TxIn G p.captured) ∧
    ∀ url body, .fetch url body ∈ page.sent → PostsIn G body

variable {G} {G' : List UInt8 → Prop} {parseJson : String → Except JsValue JsValue}

theorem Page.TxBytes.mono {page : Page} (h : page.TxBytes G) (hG : ∀ bs, G bs → G' bs) :
    page.TxBytes G' :=
  ⟨fun ht data hd => hG _ (h.1 ht data hd), fun p hp ht data hd => hG _ (h.2.1 p hp ht data hd),
    fun url body hm => (h.2.2 url body hm).imp fun _ ⟨b64, hb, hrest⟩ => ⟨b64, hG _ hb, hrest⟩⟩

theorem TxIn.of_answer {state : SovereignState} {res : JsValue}
    (h : ∃ hex bs, res = .string hex ∧ hexToBytes (.string hex) = .ok bs ∧ G bs)
    (htx : state.tx = nullish res (.string "")) : TxIn G state := by
  obtain ⟨hex, bs, rfl, hread, hs⟩ := h
  intro _ data hdata
  rw [htx] at hdata
  obtain rfl : data = bs := Except.ok.inj (hdata.symm.trans hread)
  exact hs

theorem Page.TxBytes.submit {page : Page} (h : page.TxBytes G) (body : String → String) (endpoint : String)
    (hb : ∀ bs, G bs → PostsIn G (body (bytesToBase64 bs))) :
    ∀ url b, .fetch url b ∈ (page.submit body endpoint).sent → PostsIn G b := by
  rcases page.submit_sent body endpoint with hs | ⟨sequencer, data, htruthy, hdata, -, hs⟩ <;> rw [hs]
  · exact h.2.2
  · intro url b hm
    rcases List.mem_append.1 hm with hm | hm
    · exact h.2.2 url b hm
    · obtain ⟨-, rfl⟩ := Outgoing.fetch.inj (List.mem_singleton.1 hm)
      exact hb data (h.1 htruthy data hdata)

/-- Each event keeps the page's transactions and posts of the kind `G`, when the
signature it hands a Sign request, if any, is a hex string of such bytes. -/
theorem Page.TxBytes.step {page page' : Page} (h : page.TxBytes G) {e : PageEvent}
    (hs : ∀ k res p, e = .settle k (.ok res) → page.pending[k]? = some p → p.awaiting = .signature →
      ∃ hex bs, res = .string hex ∧ hexToBytes (.string hex) = .ok bs ∧ G bs)
    (he : page.step parseJson e = some page') : page'.TxBytes G := by
  cases e with
  | input i =>
    obtain rfl := Option.some.inj he
    have htx := (Input.apply_outputs i page.state).1
    exact ⟨fun ht => by simpa only [TxIn, htx] using h.1 (htx ▸ ht), h.2.1, h.2.2⟩
  | click b =>
    have htx : page'.state.tx = page.state.tx := by
      rcases Page.click_state parseJson page b he with hs | ⟨v, hs⟩ <;> rw [hs]
    refine ⟨fun ht => htx ▸ h.1 (htx ▸ ht), fun q hq => ?_, ?_⟩
    · exact ((Page.step_click he).2 q hq).elim (h.2.1 q) fun hc => hc ▸ h.1
    · cases b <;> simp only [Page.step, Option.some.injEq] at he <;> subst he
      case getAddress => exact fun url body hm => h.2.2 url body ((List.mem_append.1 hm).resolve_right (by simp))
      case sign =>
        unfold Page.signClick
        split
        · exact fun url body hm => h.2.2 url body ((List.mem_append.1 hm).resolve_right (by simp))
        · exact h.2.2
      case submitTx => exact h.submit _ _ fun bs hb => ⟨bs, _, hb, base64Decode_bytesToBase64 bs, .inl rfl⟩
      case submitBatch => exact h.submit _ _ fun bs hb => ⟨bs, _, hb, base64Decode_bytesToBase64 bs, .inr rfl⟩
  | settle k outcome =>
    obtain ⟨p, hp, hm⟩ := Page.step_settle he
    simp only [Page.step, hp, Option.map_some', Option.some.injEq] at he
    subst he
    have hcap := h.2.1 p (List.getElem?_mem hp)
    refine ⟨?_, fun q hq => (hm.2 q hq).elim (h.2.1 q) fun hc => hc ▸ hcap, h.2.2⟩
    show TxIn G (((Page.settleWith p outcome).1).getD page.state)
    cases hst : (Page.settleWith p outcome).1 with
    | none => exact h.1
    | some state =>
      rcases Page.settleWith_writes p outcome hst with ⟨v, rfl⟩ | ⟨res, -, -, rfl⟩ | ⟨res, hsig, rfl, rfl⟩
      · exact hcap
      · exact hcap
      · exact TxIn.of_answer (hs k res p rfl hp hsig) rfl

end Bytes

/-! ## Over every run -/

section Run

variable {wallet : Pending → String × Env × List Event} {parseJson : String → Except JsValue JsValue}

/-- The event hands a Sign request in flight what the wallet's run of the snap
on its params answered, if it is the arrival of a signature. -/
def Page.SignedBySnap (wallet : Pending → String × Env × List Event)
    (parseJson : String → Except JsValue JsValue) (page : Page) : PageEvent → Prop
  | .settle k (.ok res) => ∀ p ∈ page.pending[k]?, p.awaiting = .signature → p.SnapSigned wallet parseJson res
  | _ => True

/-- Something of the kind `Q` for the form of the page just before one of the
clicks of `b` among `events`. -/
def AtClick {α : Type} (parseJson : String → Except JsValue JsValue) (b : Button)
    (Q : SovereignState → α → Prop) (events : List PageEvent) (x : α) : Prop :=
  ∃ n mid, events[n]? = some (.click b) ∧ initialPage.run parseJson (events.take n) = some mid ∧
    Q mid.state x

theorem AtClick.snoc {α : Type} {b : Button} {Q : SovereignState → α → Prop} {events : List PageEvent}
    {x : α} (h : AtClick parseJson b Q events x) (e : PageEvent) : AtClick parseJson b Q (events ++ [e]) x := by
  obtain ⟨n, mid, hn, hmid, hs⟩ := h
  obtain ⟨hn', htake⟩ := getElem?_take_snoc hn e
  exact ⟨n, mid, hn', htake ▸ hmid, hs⟩

/-- What holds of the state a request in flight closed over holds of the form
just before the click that sent it, a click of the one button that sends its
kind. -/
theorem AtClick.of_pending {α : Type} {b : Button} {Q : SovereignState → α → Prop} {events : List PageEvent}
    {page : Page} (hrun : initialPage.run parseJson events = some page) {k : Nat} {p : Pending}
    (hp : page.pending[k]? = some p) (hb : ∀ b', b'.Sends p.awaiting → b' = b) {x : α}
    (hq : Q p.captured x) : AtClick parseJson b Q events x := by
  obtain ⟨n, -, b', mid, hn, hs, hmid, hcap⟩ := (Page.sentBy_run events hrun).2 k p hp
  exact ⟨n, mid, hb b' hs ▸ hn, hmid, hcap ▸ hq⟩

/-- Over every run from the initial page in which the wallet signs each Sign
request by its run of the snap, every transaction and post is of bytes that run
serialized, for the form just before a Sign click of the run. -/
theorem Page.txBytes_run (events : List PageEvent) {page : Page}
    (hrun : initialPage.run parseJson events = some page)
    (hsnap : ∀ n mid e, initialPage.run parseJson (events.take n) = some mid → events[n]? = some e →
      mid.SignedBySnap wallet parseJson e) :
    page.TxBytes (AtClick parseJson .sign (SerializedFor wallet parseJson) events) := by
  refine Page.run_invariant (P := fun events page =>
    page.TxBytes (AtClick parseJson .sign (SerializedFor wallet parseJson) events))
    ⟨fun h => absurd h (by decide), fun _ => nofun, fun _ _ => nofun⟩ ?_ events hrun hsnap
  intro events page e page' hrun h hlast he
  refine (h.mono fun bs h => h.snoc e).step (fun k res p hk hp hsig => ?_) he
  subst hk
  obtain ⟨hex, bs, rfl, hread, hser⟩ := (hlast p hp hsig).read hsig
  exact ⟨hex, bs, rfl, hread,
    (AtClick.of_pending hrun hp (fun _ hb => Button.sends_signature (hsig ▸ hb)) hser).snoc _⟩

end Run

/-- Over every interleaving of edits, clicks and completions from the initial
page in which the wallet answers each Sign request with what its run of the snap
on that request's params returned, every post to the sequencer carries a base64
text that decodes to the bytes the wallet's run for the request of one of the
run's Sign clicks serialized as its signed transaction: over the key its approved
dialog showed, with the signature of its unsigned transaction. -/
theorem sequencer_receives_snap_transactions (wallet : Pending → String × Env × List Event)
    (parseJson : String → Except JsValue JsValue) (events : List PageEvent) {page : Page}
    (hrun : initialPage.run parseJson events = some page)
    (hsnap : ∀ n mid e, initialPage.run parseJson (events.take n) = some mid → events[n]? = some e →
      mid.SignedBySnap wallet parseJson e) :
    ∀ url body, .fetch url body ∈ page.sent → ∃ n mid bs b64, events[n]? = some (.click .sign) ∧
      initialPage.run parseJson (events.take n) = some mid ∧ SerializedFor wallet parseJson mid.state bs ∧
      base64Decode b64 = bs ∧
      (body = (JsValue.string b64).stringifyText ∨
        body = (JsValue.object [("transactions", .array [.string b64])]).stringifyText) := by
  intro url body hm
  obtain ⟨bs, b64, ⟨n, mid, hn, hmid, hser⟩, hdec, hbody⟩ := (Page.txBytes_run events hrun hsnap).2.2 url body hm
  exact ⟨n, mid, bs, b64, hn, hmid, hser, hdec, hbody⟩

/-- The params the Sign button builds from the initial form and the message
`{}`, after JSON transport: the unset gas limit is gone. -/
def initialSignParams : JsValue :=
  .object [("keyId", .number (.ofNat 0)), ("transaction", .object [("call", .object []),
    ("nonce", .number (.ofNat 0)), ("chain_id", .number (.ofNat 0)), ("max_priority_fee_bips", .number (.ofNat 0)),
    ("max_fee", .number (.ofNat 3000))])]

/-- A wallet whose collaborators approve every dialog and sign with the test key. -/
def approvingWallet : Pending → String × Env × List Event :=
  fun _ => ("localhost", Env.ofAnswers (approvingAnswers "0x01"), [])

/-- Sign, the approving wallet's signature of the initial form, and Submit Tx. -/
theorem sequencer_receives_snap_transactions_after_sign_and_submit :
    initialPage.run (fun _ => .ok (.object []))
        [.click .sign, .settle 0 (.ok (.string "0x03")), .click .submitTx] =
      some ⟨{ initialState with tx := .string "0x03" }, [⟨.response, { initialState with tx := .string "0x03" }⟩],
        [.invokeSnap "signTransaction" (signParams initialState (.object [])),
          .fetch (trimTrailingSlash "http://localhost:12346/sequencer/" ++ "/" ++ "txs")
            (JsValue.string (bytesToBase64 [3])).stringifyText]⟩ ∧
    (∀ n mid e, initialPage.run (fun _ => .ok (.object []))
        ([PageEvent.click .sign, .settle 0 (.ok (.string "0x03")), .click .submitTx].take n) = some mid →
      [PageEvent.click .sign, .settle 0 (.ok (.string "0x03")), .click .submitTx][n]? = some e →
      mid.SignedBySnap approvingWallet (fun _ => .ok (.object [])) e) ∧
    ∀ url body, Outgoing.fetch url body ∈ [Outgoing.invokeSnap "signTransaction" (signParams initialState (.object [])),
        .fetch (trimTrailingSlash "http://localhost:12346/sequencer/" ++ "/" ++ "txs")
          (JsValue.string (bytesToBase64 [3])).stringifyText] →
      ∃ n mid bs b64, [PageEvent.click .sign, .settle 0 (.ok (.string "0x03")), .click .submitTx][n]? =
          some (.click .sign) ∧
        initialPage.run (fun _ => .ok (.object []))
          ([PageEvent.click .sign, .settle 0 (.ok (.string "0x03")), .click .submitTx].take n) = some mid ∧
        SerializedFor approvingWallet (fun _ => .ok (.object [])) mid.state bs ∧ base64Decode b64 = bs ∧
        (body = (JsValue.string b64).stringifyText ∨
          body = (JsValue.object [("transactions", .array [.string b64])]).stringifyText) :=
  have hrun : initialPage.run (fun _ => .ok (.object []))
      [.click .sign, .settle 0 (.ok (.string "0x03")), .click .submitTx] =
      some ⟨{ initialState with tx := .string "0x03" }, [⟨.response, { initialState with tx := .string "0x03" }⟩],
        [.invokeSnap "signTransaction" (signParams initialState (.object [])),
          .fetch (trimTrailingSlash "http://localhost:12346/sequencer/" ++ "/" ++ "txs")
            (JsValue.string (bytesToBase64 [3])).stringifyText]⟩ := rfl
  have hsigned : (⟨.signature, initialState⟩ : Pending).SnapSigned approvingWallet (fun _ => .ok (.object []))
      (.string "0x03") :=
    ⟨.object [], initialSignParams, .string "0x03", rfl, by decide, by decide, rfl⟩
  have hsnap : ∀ n mid e, initialPage.run (fun _ => .ok (.object []))
      ([PageEvent.click .sign, .settle 0 (.ok (.string "0x03")), .click .submitTx].take n) = some mid →
      [PageEvent.click .sign, .settle 0 (.ok (.string "0x03")), .click .submitTx][n]? = some e →
      mid.SignedBySnap approvingWallet (fun _ => .ok (.object [])) e
    | 0, _, _, _, he | 2, _, _, _, he => by cases he; trivial
    | 1, mid, _, hmid, he => by
      cases he
      obtain rfl := Option.some.inj (hmid.symm.trans (show initialPage.run (fun _ => .ok (.object []))
        [.click .sign] = some ⟨initialState, [⟨.signature, initialState⟩],
          [.invokeSnap "signTransaction" (signParams initialState (.object []))]⟩ from rfl))
      intro p hp _
      cases hp
      exact hsigned
    | _ + 3, _, _, _, he => by cases he
  ⟨hrun, hsnap, sequencer_receives_snap_transactions _ _ _ hrun hsnap⟩

end SovereignSnap
