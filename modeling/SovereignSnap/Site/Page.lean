import SovereignSnap.Site.Form
import SovereignSnap.Library

/-! # The page and its requests in flight

Edits, clicks and the settling of the handlers' promises, in any order;
`JSON.parse` is left a parameter, `parseJson`.
-/

namespace SovereignSnap

open Js JsValue

/-! ## Handlers and requests -/

/-- `er.message` in a `catch` block: an `Error`'s message, another value's
`message` property; reading it from `undefined` or `null` throws. -/
def errorMessage : JsValue → Except JsValue JsValue
  | .error e => .ok (.string e.message)
  | er => er.get "message"

/-- `value ?? fallback`. -/
def nullish (value fallback : JsValue) : JsValue :=
  match value with
  | .undefined | .null => fallback
  | v => v

/-- `trimTrailingSlash(str)`. -/
def trimTrailingSlash (str : String) : String :=
  if str.toList.getLast? = some '/' then ⟨str.toList.dropLast⟩ else str

/-- What a request in flight awaits. -/
inductive Awaiting where
  /-- `window.ethereum.request(addressRequest).then(...)` of Get Address. -/
  | address
  /-- `await window.ethereum.request(request)` of Sign. -/
  | signature
  /-- `await fetch(...)` in `submitSequencer`. -/
  | response
  /-- `await response.json()` in `submitSequencer`. -/
  | responseData
deriving DecidableEq

/-- A request in flight: what it awaits, and the `state` its handler closed over. -/
structure Pending where
  awaiting : Awaiting
  captured : SovereignState

/-- A call the page makes outside its own code: a snap request through
`window.ethereum.request`, or a `fetch` to the sequencer. -/
inductive Outgoing where
  | invokeSnap (method : String) (params : JsValue)
  | fetch (url : String) (body : String)

/-- The page: the component's state, its requests in flight, the calls it made. -/
structure Page where
  state : SovereignState
  pending : List Pending
  sent : List Outgoing

def initialPage : Page := ⟨initialState, [], []⟩

inductive Button where
  | getAddress
  | sign
  | submitTx
  | submitBatch

/-- What can happen next on the page: an edit, a click, or the `k`-th request in
flight settling with a value or a rejection. -/
inductive PageEvent where
  | input (i : Input)
  | click (b : Button)
  | settle (k : Nat) (outcome : Except JsValue JsValue)

/-- The `catch (er)` block `setState({...state, status: er.message})`; when
reading the message throws, the state is not set. -/
def catchStatus (state : SovereignState) (er : JsValue) : Option SovereignState :=
  match errorMessage er with
  | .ok message => some { state with status := message }
  | .error _ => none

namespace Page

variable (parseJson : String → Except JsValue JsValue)

/-- Get Address: the request with the state's key id. -/
def getAddressClick (page : Page) : Page :=
  { page with
    pending := page.pending ++ [⟨.address, page.state⟩]
    sent := page.sent ++ [.invokeSnap "getAddress" (.object [("keyId", numberField page.state.keyId)])] }

/-- Sign: the call message is parsed at once, a syntax error going to the
`catch` block; otherwise the request with the state's params. -/
def signClick (page : Page) : Page :=
  match parseJson page.state.callMessage with
  | .ok msg =>
    { page with
      pending := page.pending ++ [⟨.signature, page.state⟩]
      sent := page.sent ++ [.invokeSnap "signTransaction" (signParams page.state msg)] }
  | .error er => { page with state := (catchStatus page.state er).getD page.state }

/-- `submitSequencer(body, endpoint)` up to its first `await`: an unset or empty
sequencer sets the status at once, otherwise the fetch. -/
def submitSequencer (page : Page) (body endpoint : String) : Page :=
  match page.state.sequencer with
  | some sequencer =>
    if sequencer ≠ "" then
      { page with
        pending := page.pending ++ [⟨.response, page.state⟩]
        sent := page.sent ++ [.fetch (trimTrailingSlash sequencer ++ "/" ++ endpoint) body] }
    else { page with state := { page.state with status := .string "Sequencer URL field is empty" } }
  | none => { page with state := { page.state with status := .string "Sequencer URL field is empty" } }

/-- Submit Tx and Submit Batch: without a transaction, or with one that is not
hexadecimal, the handler throws before any request; otherwise the body of the
transaction's bytes in base64 goes to `submitSequencer`. -/
def submit (page : Page) (body : String → String) (endpoint : String) : Page :=
  if page.state.tx.truthy then
    match hexToBytes page.state.tx with
    | .ok data => page.submitSequencer (body (bytesToBase64 data)) endpoint
    | .error _ => page
  else page

/-- What a request's handler does when its promise settles: the state it sets,
if any, and the promise it awaits next, if any. A rejected Get Address is not
caught. -/
def settleWith (p : Pending) : Except JsValue JsValue → Option SovereignState × Option Pending
  | .ok res => match p.awaiting with
    | .address => (some { p.captured with address := res }, none)
    | .signature => (some { p.captured with tx := nullish res (.string "") }, none)
    | .response => match res.get "ok" with
      | .ok ok =>
        if ok.truthy then (none, some ⟨.responseData, p.captured⟩)
        else (some { p.captured with
          status := .string ("Sequencer response was not ok " ++ (res.member "statusText").toStr) }, none)
      | .error er => (catchStatus p.captured er, none)
    | .responseData => (some { p.captured with status := res }, none)
  | .error er => match p.awaiting with
    | .address => (none, none)
    | _ => (catchStatus p.captured er, none)

/-- The `k`-th request in flight settles: its handler sets the state or not, and
awaits its next promise in its place or leaves. -/
def settle (page : Page) (k : Nat) (p : Pending) (outcome : Except JsValue JsValue) : Page :=
  { page with
    state := ((settleWith p outcome).1).getD page.state
    pending := match (settleWith p outcome).2 with
      | some next => page.pending.set k next
      | none => page.pending.eraseIdx k }

/-- One event on the page; `none` when no `k`-th request is in flight. -/
def step (page : Page) : PageEvent → Option Page
  | .input i => some { page with state := i.apply page.state }
  | .click .getAddress => some page.getAddressClick
  | .click .sign => some (page.signClick parseJson)
  | .click .submitTx => some (page.submit (fun b => (JsValue.string b).stringifyText) "txs")
  | .click .submitBatch =>
    some (page.submit (fun b => (JsValue.object [("transactions", .array [.string b])]).stringifyText)
      "batches")
  | .settle k outcome => page.pending[k]?.map fun p => page.settle k p outcome

def run : Page → List PageEvent → Option Page
  | page, [] => some page
  | page, e :: es => (page.step parseJson e).bind fun page' => page'.run es

theorem run_append (page : Page) (es es' : List PageEvent) :
    page.run parseJson (es ++ es') = (page.run parseJson es).bind fun page' => page'.run parseJson es' := by
  induction es generalizing page with
  | nil => rfl
  | cons e es ih =>
    simp only [List.cons_append, run]
    cases page.step parseJson e with
    | none => rfl
    | some page' => exact ih page'

theorem run_inputs (page : Page) (inputs : List Input) :
    page.run parseJson (inputs.map .input) =
      some { page with state := inputRun page.state inputs } := by
  induction inputs generalizing page with
  | nil => rfl
  | cons i inputs ih =>
    simp only [List.map_cons, run, step, Option.some_bind]
    exact ih _

end Page

/-! ## What holds over every interleaving -/

/-- The fields of the state and of every state a request in flight closed over
are as the inputs leave them. -/
def Page.FieldsRead (page : Page) : Prop :=
  SovereignSnap.FieldsRead page.state ∧ ∀ p ∈ page.pending, SovereignSnap.FieldsRead p.captured

section Invariant

variable {parseJson : String → Except JsValue JsValue}

/-- The state a completion sets: the state its request closed over, with one
output field written. -/
def SovereignState.WithOutput (captured state : SovereignState) : Prop :=
  ∃ v, state = { captured with address := v } ∨ state = { captured with tx := v } ∨
    state = { captured with status := v }

theorem catchStatus_withOutput {captured state : SovereignState} {er : JsValue}
    (h : catchStatus captured er = some state) : captured.WithOutput state := by
  unfold catchStatus at h
  split at h <;> cases h
  exact ⟨_, .inr (.inr rfl)⟩

/-- What a handler does when its promise settles: it sets the state it closed
over with one output field written, and awaits its next promise, if any, with
that same state. -/
theorem Page.settleWith_cases (p : Pending) (outcome : Except JsValue JsValue) :
    (∀ state, (Page.settleWith p outcome).1 = some state → p.captured.WithOutput state) ∧
      ∀ q, (Page.settleWith p outcome).2 = some q → q.captured = p.captured := by
  obtain ⟨a, captured⟩ := p
  cases outcome <;> cases a <;> dsimp only [Page.settleWith]
  case ok.address res => exact ⟨fun _ h => ⟨res, .inl (Option.some.inj h).symm⟩, fun _ => nofun⟩
  case ok.signature res => exact ⟨fun _ h => ⟨_, .inr (.inl (Option.some.inj h).symm)⟩, fun _ => nofun⟩
  case ok.responseData res =>
    exact ⟨fun _ h => ⟨res, .inr (.inr (Option.some.inj h).symm)⟩, fun _ => nofun⟩
  case ok.response res =>
    split
    · split
      · exact ⟨fun _ => nofun, fun _ h => by cases h; rfl⟩
      · exact ⟨fun _ h => ⟨_, .inr (.inr (Option.some.inj h).symm)⟩, fun _ => nofun⟩
    · exact ⟨fun _ h => catchStatus_withOutput h, fun _ => nofun⟩
  case error.address => exact ⟨fun _ => nofun, fun _ => nofun⟩
  all_goals exact ⟨fun _ h => catchStatus_withOutput h, fun _ => nofun⟩

theorem FieldsRead.withOutput {captured state : SovereignState} (h : FieldsRead captured)
    (hs : captured.WithOutput state) : FieldsRead state := by
  obtain ⟨v, rfl | rfl | rfl⟩ := hs <;> exact { h with }

/-- How a click or a completion can change the page, for the state `src` its
handler closed over: the state stays, or becomes `src` with one output field
written, and each request in flight was already there or closes over `src`. -/
def Page.Moves (src : SovereignState) (page page' : Page) : Prop :=
  (page'.state = page.state ∨ src.WithOutput page'.state) ∧
    ∀ q ∈ page'.pending, q ∈ page.pending ∨ q.captured = src

theorem Page.moves_refl (page : Page) : page.Moves page.state page :=
  ⟨.inl rfl, fun _ hq => .inl hq⟩

theorem Page.moves_status (page : Page) (status : JsValue) :
    page.Moves page.state { page with state := { page.state with status := status } } :=
  ⟨.inr ⟨status, .inr (.inr rfl)⟩, fun _ hq => .inl hq⟩

theorem Page.moves_send (page : Page) (a : Awaiting) (sent : List Outgoing) :
    page.Moves page.state { page with pending := page.pending ++ [⟨a, page.state⟩], sent := sent } :=
  ⟨.inl rfl, fun _ hq => (List.mem_append.1 hq).imp id fun h => congrArg Pending.captured (List.mem_singleton.1 h)⟩

theorem Page.moves_signClick (page : Page) : page.Moves page.state (page.signClick parseJson) := by
  unfold Page.signClick catchStatus
  split
  · exact page.moves_send _ _
  · split
    · exact page.moves_status _
    · exact page.moves_refl

theorem Page.moves_submit (page : Page) (body : String → String) (endpoint : String) :
    page.Moves page.state (page.submit body endpoint) := by
  unfold Page.submit Page.submitSequencer
  split
  · split
    · split
      · split
        · exact page.moves_send _ _
        · exact page.moves_status _
      · exact page.moves_status _
    · exact page.moves_refl
  · exact page.moves_refl

/-- A click writes the status of the current state or sends one request that
closes over it. -/
theorem Page.step_click {page page' : Page} {b : Button}
    (he : page.step parseJson (.click b) = some page') : page.Moves page.state page' := by
  cases b <;> simp only [Page.step, Option.some.injEq] at he <;> subst he
  case getAddress => exact page.moves_send _ _
  case sign => exact page.moves_signClick
  all_goals exact page.moves_submit _ _

/-- A completion moves the page from the state its request closed over: what the
state has become since the click plays no part. -/
theorem Page.step_settle {page page' : Page} {k : Nat} {outcome : Except JsValue JsValue}
    (he : page.step parseJson (.settle k outcome) = some page') :
    ∃ p, page.pending[k]? = some p ∧ page.Moves p.captured page' := by
  simp only [Page.step, Option.map_eq_some'] at he
  obtain ⟨p, hp, rfl⟩ := he
  obtain ⟨hs, hq⟩ := Page.settleWith_cases p outcome
  refine ⟨p, hp, ?_, fun q hq' => ?_⟩
  · cases hst : (Page.settleWith p outcome).1 with
    | none => exact .inl (by simp [Page.settle, hst])
    | some state => exact .inr (by simpa [Page.settle, hst] using hs _ hst)
  · simp only [Page.settle] at hq'
    split at hq'
    · rename_i next hnext
      exact (List.mem_or_eq_of_mem_set hq').imp id fun h => (congrArg Pending.captured h).trans (hq _ hnext)
    · exact .inl (List.mem_of_mem_eraseIdx hq')

theorem Page.FieldsRead.moves {src : SovereignState} {page page' : Page} (h : page.FieldsRead)
    (hsrc : SovereignSnap.FieldsRead src) (hm : page.Moves src page') : page'.FieldsRead :=
  ⟨hm.1.elim (· ▸ h.1) hsrc.withOutput, fun q hq => (hm.2 q hq).elim (h.2 q) (· ▸ hsrc)⟩

/-- Each event keeps the fields of the page as the inputs leave them. -/
theorem Page.FieldsRead.step {page page' : Page} (h : page.FieldsRead) {e : PageEvent}
    (he : page.step parseJson e = some page') : page'.FieldsRead := by
  cases e with
  | input i => exact Option.some.inj he ▸ ⟨h.1.apply i, h.2⟩
  | click b => exact h.moves h.1 (Page.step_click he)
  | settle k outcome =>
    obtain ⟨p, hp, hm⟩ := Page.step_settle he
    exact h.moves (h.2 p (List.getElem?_mem hp)) hm

/-- Over every interleaving of edits, clicks and completions, the fields hold
what the inputs alone can leave in them. -/
theorem Page.FieldsRead.run {page page' : Page} (h : page.FieldsRead) {events : List PageEvent}
    (he : page.run parseJson events = some page') : page'.FieldsRead := by
  induction events generalizing page with
  | nil => exact Option.some.inj he ▸ h
  | cons e events ih =>
    simp only [Page.run, Option.bind_eq_some] at he
    obtain ⟨mid, hmid, hrest⟩ := he
    exact ih (h.step hmid) hrest

theorem fieldsRead_initialPage : initialPage.FieldsRead :=
  ⟨fieldsRead_initialState, fun _ => nofun⟩

end Invariant

/-! ## Completions undo what happened while they were in flight -/

theorem getElem?_length_append {α : Type} (l : List α) (a : α) (l' : List α) :
    (l ++ a :: l')[l.length]? = some a := by
  rw [List.getElem?_append_right (le_refl _), Nat.sub_self, List.getElem?_cons_zero]

theorem eraseIdx_length_append {α : Type} (l : List α) (a : α) (l' : List α) :
    (l ++ a :: l').eraseIdx l.length = l ++ l' := by
  rw [List.eraseIdx_append_of_length_le (le_refl _), Nat.sub_self]
  rfl

section Completion

variable (parseJson : String → Except JsValue JsValue)

/-- Whatever is edited while a signature is awaited, its arrival brings back the
state of the click with the transaction set. -/
theorem sign_completion_discards_edits (page : Page) (msg : JsValue)
    (hparse : parseJson page.state.callMessage = .ok msg) (inputs : List Input) (res : JsValue) :
    (page.run parseJson ([.click .sign] ++ inputs.map .input ++
      [.settle page.pending.length (.ok res)])).map Page.state =
      some { page.state with tx := nullish res (.string "") } := by
  rw [Page.run_append, Page.run_append]
  simp [Page.run, Page.step, Page.signClick, hparse, Page.run_inputs, Page.settle, Page.settleWith]

/-- A signature that arrives after a Get Address completion takes the address
back to what it was before either click. -/
theorem sign_completion_discards_address (page : Page) (msg : JsValue)
    (hparse : parseJson page.state.callMessage = .ok msg) (address res : JsValue) :
    (page.run parseJson [.click .getAddress, .click .sign, .settle page.pending.length (.ok address),
      .settle page.pending.length (.ok res)]).map (·.state.address) = some page.state.address := by
  simp only [Page.run, Page.step, Page.getAddressClick, Page.signClick, hparse, List.append_assoc,
    List.singleton_append, getElem?_length_append, Option.map_some', Option.some_bind]
  simp only [Page.settle, Page.settleWith, eraseIdx_length_append, getElem?_length_append,
    Option.map_some', Option.some_bind, Option.getD_some]

end Completion

def fiveInput : NumberInputValue :=
  ⟨"5", sanitizeNumber_digits (List.cons_ne_nil _ _) (by decide) 
    ((show numeralValue ['5'] ≤ 9 by decide).trans_lt (by norm_num [doubleLimit]))⟩

/-- From the initial page, a nonce typed while a signature is awaited is reverted
to `0` when the signature arrives, and an address that arrives first is lost when
the signature does. -/
theorem completions_revert_nonce_and_address (parseJson : String → Except JsValue JsValue)
    (msg : JsValue) (hparse : parseJson initialState.callMessage = .ok msg) :
    (initialPage.run parseJson [.click .sign, .input (.nonce fiveInput)]).map (·.state.nonce) =
        some (.ofNat 5) ∧
      (initialPage.run parseJson [.click .sign, .input (.nonce fiveInput),
        .settle 0 (.ok (.string "0xab"))]).map (·.state.nonce) = some (.ofNat 0) ∧
      (initialPage.run parseJson [.click .getAddress, .click .sign,
        .settle 0 (.ok (.string "sov1"))]).map (·.state.address) = some (.string "sov1") ∧
      (initialPage.run parseJson [.click .getAddress, .click .sign, .settle 0 (.ok (.string "sov1")),
        .settle 0 (.ok (.string "0xab"))]).map (·.state.address) = some .undefined := by
  have hrevert := sign_completion_discards_edits parseJson initialPage msg hparse [.nonce fiveInput] (.string "0xab")
  refine ⟨?_, ?_, ?_, sign_completion_discards_address parseJson initialPage msg hparse _ _⟩
  · simp [initialPage, Page.run, Page.step, Page.signClick, hparse, Input.apply, onNonceChange, onNumberChange,
      fiveInput, digitsRegexTest]
    decide
  · simpa [Option.map_map, Function.comp_def] using congrArg (Option.map SovereignState.nonce) hrevert
  · simp [initialPage, Page.run, Page.step, Page.signClick, Page.getAddressClick, hparse, Page.settle,
      Page.settleWith]

theorem completions_revert_nonce_and_address_object_message :
    (fun _ => .ok (.object []) : String → Except JsValue JsValue) initialState.callMessage =
        .ok (.object []) ∧
      (initialPage.run (fun _ => .ok (.object [])) [.click .sign, .input (.nonce fiveInput)]).map
        (·.state.nonce) = some (.ofNat 5) ∧
      (initialPage.run (fun _ => .ok (.object [])) [.click .sign, .input (.nonce fiveInput),
        .settle 0 (.ok (.string "0xab"))]).map (·.state.nonce) = some (.ofNat 0) ∧
      (initialPage.run (fun _ => .ok (.object [])) [.click .getAddress, .click .sign,
        .settle 0 (.ok (.string "sov1"))]).map (·.state.address) = some (.string "sov1") ∧
      (initialPage.run (fun _ => .ok (.object [])) [.click .getAddress, .click .sign,
        .settle 0 (.ok (.string "sov1")), .settle 0 (.ok (.string "0xab"))]).map (·.state.address) =
        some .undefined :=
  ⟨rfl, completions_revert_nonce_and_address _ (.object []) rfl⟩

end SovereignSnap
