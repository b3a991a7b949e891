import SovereignSnap.Protocol.Sign
import SovereignSnap.Protocol.Address

/-! # Order of the protocol's calls

The key calls before the dialog, the approval before the runtime message, and
each codec or signer call once, in order.
-/

namespace SovereignSnap

open Js JsValue Script Protocol

namespace Call

def isDialog : Call → Bool
  | dialog _ => true
  | _ => false

/-- The place of the codec and signer calls that follow the approval. -/
def encodingStep : Call → Option Nat
  | serializeCall _ => some 0
  | serializeUnsignedTransaction _ => some 1
  | sign _ _ => some 2
  | serializeTransaction _ => some 3
  | _ => none

def isAddressCall : Call → Bool
  | getBip32PublicKey _ | bechEncodePublicKey _ | dealloc => true
  | _ => false

end Call

section Shapes

variable (keypairParams : JsValue)

/-- The entropy, the node and the node's key encoded into an address, each returned. -/
def KeyPrefix (node : JsValue) (publicKey : String) (pre : Calls) : Prop :=
  ∃ e a, pre = [(.getBip32Entropy keypairParams, .ok e), (.fromJSON e, .ok node),
    (.bechEncodePublicKey publicKey, .ok a)] ∧ nodePublicKey node = .ok publicKey

/-- The key calls, then a dialog that returned approval. -/
def Approved (node : JsValue) (publicKey : String) (pre : Calls) : Prop :=
  ∃ keyed content v, pre = keyed ++ [(.dialog content, .ok v)] ∧ v.truthy ∧
    KeyPrefix keypairParams node publicKey keyed

/-- The number of dialogs among the calls, and the places of their codec and signer calls. -/
def progress (calls : Calls) : Nat × List Nat :=
  (calls.countP fun x => x.1.isDialog, calls.filterMap fun x => x.1.encodingStep)

@[simp] theorem progress_nil : progress [] = (0, []) := rfl

@[simp] theorem progress_append (a b : Calls) :
    progress (a ++ b) = ((progress a).1 + (progress b).1, (progress a).2 ++ (progress b).2) := by
  simp [progress, List.countP_append]

@[simp] theorem progress_cons (c : Call) (o : Except JsValue JsValue) (calls : Calls) :
    progress ((c, o) :: calls) = ((progress calls).1 + if c.isDialog then 1 else 0,
      c.encodingStep.toList ++ (progress calls).2) := by
  cases h : c.encodingStep <;> simp [progress, List.countP_cons, List.filterMap_cons, h]

/-- At most one dialog, and the codec and signer calls each at most once, in order. -/
def Settled (calls : Calls) : Prop :=
  (progress calls).1 ≤ 1 ∧ (progress calls).2 <+: [0, 1, 2, 3]

/-- The calls a run of the signing machine made before reaching each state. -/
def SignStage.history : SignStage → Calls → Prop
  | .entropy, pre => pre = []
  | .node e, pre => pre = [(.getBip32Entropy keypairParams, .ok e)]
  | .address n pk, pre => ∃ e, pre = [(.getBip32Entropy keypairParams, .ok e), (.fromJSON e, .ok n)] ∧
      nodePublicKey n = .ok pk
  | .approval n pk _, pre => KeyPrefix keypairParams n pk pre
  | .runtimeMsg n pk _, pre => Approved keypairParams n pk pre
  | .unsigned n pk _, pre => ∃ approved c b, pre = approved ++ [(.serializeCall c, .ok b)] ∧
      Approved keypairParams n pk approved
  | .signature pk u m _, pre => ∃ n approved c b, pre = approved ++
      [(.serializeCall c, .ok b), (.serializeUnsignedTransaction u, .ok m)] ∧
      Approved keypairParams n pk approved
  | .signed _, pre => ∃ n pk approved c b u m k s, pre = approved ++
      [(.serializeCall c, .ok b), (.serializeUnsignedTransaction u, .ok m), (.sign m k, .ok s)] ∧
      Approved keypairParams n pk approved
  | .release _, pre => ∃ n pk approved c b u m k s t tx, pre = approved ++
      [(.serializeCall c, .ok b), (.serializeUnsignedTransaction u, .ok m), (.sign m k, .ok s),
        (.serializeTransaction t, .ok tx)] ∧ Approved keypairParams n pk approved
  | .returned _, pre | .cleanup, pre | .finished, pre => Settled pre

end Shapes

section History

variable {keypairParams : JsValue} {node : JsValue} {publicKey : String} {pre : Calls}

theorem KeyPrefix.progress_eq (h : KeyPrefix keypairParams node publicKey pre) :
    progress pre = (0, []) := by
  obtain ⟨e, a, rfl, -⟩ := h
  simp [Call.isDialog, Call.encodingStep]

theorem Approved.progress_eq (h : Approved keypairParams node publicKey pre) :
    progress pre = (1, []) := by
  obtain ⟨keyed, content, v, rfl, -, hk⟩ := h
  simp [hk.progress_eq, Call.isDialog, Call.encodingStep]

theorem Approved.mem (h : Approved keypairParams node publicKey pre) :
    ∃ content v, (.dialog content, .ok v) ∈ pre ∧ v.truthy := by
  obtain ⟨keyed, content, v, rfl, hv, -⟩ := h
  exact ⟨content, v, by simp, hv⟩

theorem history_settled {q : SignStage} (h : q.history keypairParams pre) : Settled pre := by
  cases q with
  | entropy => simp [SignStage.history.eq_def] at h; simp [h, Settled]
  | node e => simp [SignStage.history] at h; simp [h, Settled, Call.isDialog, Call.encodingStep]
  | address n pk =>
      obtain ⟨e, rfl, -⟩ := h
      simp [Settled, Call.isDialog, Call.encodingStep]
  | approval n pk c | runtimeMsg n pk c => simp [Settled, h.progress_eq]
  | unsigned n pk u =>
      obtain ⟨approved, c, b, rfl, ha⟩ := h
      simp [Settled, ha.progress_eq, Call.isDialog, Call.encodingStep]
  | signature pk u m k =>
      obtain ⟨n, approved, c, b, rfl, ha⟩ := h
      simp [Settled, ha.progress_eq, Call.isDialog, Call.encodingStep]
  | signed t =>
      obtain ⟨n, pk, approved, c, b, u, m, k, s, rfl, ha⟩ := h
      simp [Settled, ha.progress_eq, Call.isDialog, Call.encodingStep]
  | release h' =>
      obtain ⟨n, pk, approved, c, b, u, m, k, s, t, tx, rfl, ha⟩ := h
      simp [Settled, ha.progress_eq, Call.isDialog, Call.encodingStep]
  | returned _ | cleanup | finished => exact h

theorem Settled.append_quiet {c : Call} (h : Settled pre) (hd : c.isDialog = false)
    (he : c.encodingStep = none) (o : Except JsValue JsValue) : Settled (pre ++ [(c, o)]) := by
  simpa [Settled, hd, he] using h

theorem history_settled_append {q : SignStage} {c : Call} (h : q.history keypairParams pre)
    (hc : q.expect keypairParams = some c) (o : Except JsValue JsValue) :
    Settled (pre ++ [(c, o)]) := by
  cases q <;> simp only [SignStage.expect, Option.some.injEq, reduceCtorEq] at hc <;> subst hc
  case approval => simp [Settled, h.progress_eq, Call.isDialog, Call.encodingStep]
  case runtimeMsg => simp [Settled, h.progress_eq, Call.isDialog, Call.encodingStep]
  case unsigned =>
    obtain ⟨approved, c, b, rfl, ha⟩ := h
    simp [Settled, ha.progress_eq, Call.isDialog, Call.encodingStep]
  case signature =>
    obtain ⟨n, approved, c, b, rfl, ha⟩ := h
    simp [Settled, ha.progress_eq, Call.isDialog, Call.encodingStep]
  case signed =>
    obtain ⟨n, pk, approved, c, b, u, m, k, s, rfl, ha⟩ := h
    simp [Settled, ha.progress_eq, Call.isDialog, Call.encodingStep]
  all_goals exact Settled.append_quiet (history_settled h) (by rfl) (by rfl) o

@[simp] theorem history_proceed {β : Type} (r : Except JsValue β) (f : β → SignStage) :
    (proceed r .cleanup f).history keypairParams pre ↔
      (∀ e, r = .error e → Settled pre) ∧ ∀ b, r = .ok b → (f b).history keypairParams pre := by
  cases r with
  | error e => exact ⟨fun h => ⟨fun _ _ => h, fun _ h' => nomatch h'⟩, fun h => h.1 e rfl⟩
  | ok b => exact ⟨fun h => ⟨fun _ h' => (nomatch h'), fun _ h' => Except.ok.inj h' ▸ h⟩, fun h => h.2 b rfl⟩

variable (origin : String) (transaction : JsValue)

theorem history_step {q : SignStage} {c : Call} (o : Except JsValue JsValue)
    (h : q.history keypairParams pre) (hc : q.expect keypairParams = some c) :
    (q.next origin transaction o).history keypairParams (pre ++ [(c, o)]) := by
  have hs := history_settled_append h hc o
  cases o with
  | error e =>
    rcases SignStage.next_error origin transaction keypairParams hc e with he | he <;> rw [he] <;> exact hs
  | ok v =>
    cases q <;> simp only [SignStage.expect, Option.some.injEq, reduceCtorEq] at hc <;> subst hc <;>
      simp only [SignStage.next, history_proceed] <;> simp only [SignStage.history] at h
    case entropy => simp [h, SignStage.history]
    case node e => exact ⟨fun _ _ => hs, fun pk hpk => ⟨e, by simp [h], hpk⟩⟩
    case address n pk =>
      obtain ⟨e, rfl, hn⟩ := h
      exact ⟨fun _ _ => hs, fun _ _ => ⟨e, v, by simp, hn⟩⟩
    case approval n pk content =>
      split
      · exact (history_proceed _ _).2 ⟨fun _ _ => hs, fun _ _ => ⟨pre, content, v, rfl, ‹_›, h⟩⟩
      · exact hs
    case runtimeMsg n pk cm => exact ⟨fun _ _ => hs, fun _ _ => ⟨pre, cm, v, rfl, h⟩⟩
    case unsigned n pk u =>
      obtain ⟨approved, c, b, rfl, ha⟩ := h
      exact ⟨fun _ _ => hs, fun _ _ => ⟨n, approved, c, b, by simp, ha⟩⟩
    case signature pk u m k =>
      obtain ⟨n, approved, c, b, rfl, ha⟩ := h
      exact ⟨fun _ _ => hs, fun _ _ => ⟨n, pk, approved, c, b, u, m, k, v, by simp, ha⟩⟩
    case signed t =>
      obtain ⟨n, pk, approved, c, b, u, m, k, s, rfl, ha⟩ := h
      exact ⟨fun _ _ => hs, fun _ _ => ⟨n, pk, approved, c, b, u, m, k, s, t, v, by simp, ha⟩⟩
    all_goals exact hs

theorem history_dialog {q : SignStage} {content : List Component} (h : q.history keypairParams pre)
    (hc : q.expect keypairParams = some (.dialog content)) :
    ∃ node publicKey, KeyPrefix keypairParams node publicKey pre := by
  cases q <;> simp [SignStage.expect] at hc
  exact ⟨_, _, h⟩

/-- A state that expects a codec or signer call has an approving dialog behind it. -/
theorem history_approved {q : SignStage} {c : Call} (h : q.history keypairParams pre)
    (hc : q.expect keypairParams = some c) (he : c.encodingStep.isSome) :
    ∃ content v, (.dialog content, .ok v) ∈ pre ∧ v.truthy := by
  cases q <;> simp only [SignStage.expect, Option.some.injEq, reduceCtorEq] at hc <;> subst hc <;>
    simp only [Call.encodingStep, Option.isSome_none, Bool.false_eq_true] at he
  case runtimeMsg => exact h.mem
  case unsigned =>
    obtain ⟨approved, c, b, rfl, ha⟩ := h
    simpa using ha.mem
  case signature =>
    obtain ⟨n, approved, c, b, rfl, ha⟩ := h
    simpa using ha.mem
  case signed =>
    obtain ⟨n, pk, approved, c, b, u, m, k, s, rfl, ha⟩ := h
    simpa using ha.mem

end History

/-- The order of the signing calls, as a property of the calls of a run with
their outcomes. -/
structure SignOrder (keypairParams : JsValue) (calls : Calls) : Prop where
  dialog_once : calls.countP (fun x => x.1.isDialog) ≤ 1
  dialog_after_key : ∀ i content o, calls[i]? = some (.dialog content, o) →
    ∃ node publicKey, KeyPrefix keypairParams node publicKey (calls.take i)
  encoding_order : calls.filterMap (fun x => x.1.encodingStep) <+: [0, 1, 2, 3]
  encoding_after_approval : ∀ i x, calls[i]? = some x → x.1.encodingStep.isSome →
    ∃ content v, (.dialog content, .ok v) ∈ calls.take i ∧ v.truthy
  declined : ∀ content o, (.dialog content, o) ∈ calls → (∀ v, o = .ok v → v.truthy = false) →
    ∀ x ∈ calls, x.1.encodingStep = none

theorem dialog_unique {calls : Calls} (h : calls.countP (fun x => x.1.isDialog) ≤ 1)
    {x y : Call × Except JsValue JsValue} (hx : x ∈ calls) (hy : y ∈ calls)
    (hdx : x.1.isDialog) (hdy : y.1.isDialog) : x = y := by
  rw [List.countP_eq_length_filter] at h
  have hx' : x ∈ calls.filter (fun x => x.1.isDialog) := List.mem_filter.2 ⟨hx, hdx⟩
  have hy' : y ∈ calls.filter (fun x => x.1.isDialog) := List.mem_filter.2 ⟨hy, hdy⟩
  generalize calls.filter _ = l at h hx' hy'
  rcases l with _ | ⟨z, _ | ⟨w, l⟩⟩ <;> simp_all

theorem signOrder_of_history {keypairParams : JsValue} {calls : Calls}
    (hcalls : ∀ (i : Nat) x, calls[i]? = some x → ∃ q : SignStage, q.expect keypairParams = some x.1 ∧
      q.history keypairParams (calls.take i))
    (hend : ∃ q : SignStage, q.history keypairParams calls) : SignOrder keypairParams calls := by
  obtain ⟨q, hq⟩ := hend
  obtain ⟨hd, he⟩ := history_settled hq
  have approved : ∀ (i : Nat) (x : Call × Except JsValue JsValue), calls[i]? = some x →
      x.1.encodingStep.isSome →
      ∃ content v, (.dialog content, .ok v) ∈ calls.take i ∧ v.truthy := fun i x hx hs => by
    obtain ⟨q, hc, hh⟩ := hcalls i x hx
    exact history_approved hh hc hs
  refine ⟨hd, fun i content o hx => ?_, he, approved, fun content o hmem hno x hx => ?_⟩
  · obtain ⟨q, hc, hh⟩ := hcalls i _ hx
    exact history_dialog hh hc
  · obtain ⟨i, hi⟩ := List.mem_iff_getElem?.1 hx
    cases hs : x.1.encodingStep
    · rfl
    obtain ⟨content', v, hmem', hv⟩ := approved i x hi (by simp [hs])
    have ho := (Prod.mk.inj (dialog_unique hd hmem (List.mem_of_mem_take hmem') rfl rfl)).2
    simp [hno v ho] at hv

/-- A request turned away before any call: an unknown method, or parameters its
method's struct rejects. -/
def Request.Rejected (request : Request) : Prop :=
  if request.method = "getAddress" then ∃ f, validate request.params getAddressStruct = .error f
  else if request.method = "signTransaction" then
    ∃ f, validate request.params signTransactionStruct = .error f
  else True

/-- The order of the collaborator calls of a run of `onRpcRequest`. -/
structure ProtocolOrder (request : Request) (calls : Calls) : Prop where
  rejected : request.Rejected → calls = []
  address : request.method = "getAddress" → ∀ x ∈ calls, x.1.isAddressCall
  signing : request.method = "signTransaction" →
    SignOrder (getKeypairParams (request.params.member "keyId")) calls

theorem signOrder_nil (keypairParams : JsValue) : SignOrder keypairParams [] :=
  signOrder_of_history (by simp) ⟨.entropy, rfl⟩

section Runs

variable (env : Env) (past : List Event)

theorem getAddress_address_calls (params : JsValue) :
    ∀ x ∈ Event.calls ((getAddress params).run env past).events, x.1.isAddressCall := by
  obtain ⟨hcalls, -⟩ := Follows.run_invariant _ (fun _ _ => True) (fun _ _ _ _ _ _ => trivial)
    (getAddress_follows_member params) trivial env past
  intro x hx
  obtain ⟨i, hi⟩ := List.mem_iff_getElem?.1 hx
  obtain ⟨q, hq, -⟩ := hcalls i x hi
  cases q <;> simp only [addressProtocol_expect, AddressStage.expect, Option.some.injEq,
    reduceCtorEq] at hq <;> simp [← hq, Call.isAddressCall]

theorem signTransaction_signOrder (origin : String) (params : JsValue) :
    SignOrder (getKeypairParams (params.member "keyId"))
      (Event.calls ((signTransaction origin params).run env past).events) := by
  obtain ⟨hcalls, q, hq, -⟩ := Follows.run_invariant _ (SignStage.history _)
    (fun _ _ _ o h hc => history_step origin _ o h hc) (signTransaction_follows_member origin params)
    rfl env past
  exact signOrder_of_history hcalls ⟨q, hq⟩

end Runs

theorem onRpcRequest_protocol_order (origin : String) (request : Request) (env : Env)
    (past : List Event) :
    ProtocolOrder request (Event.calls ((onRpcRequest origin request).run env past).events) := by
  unfold onRpcRequest
  split
  next h =>
    refine ⟨fun hr => ?_, fun _ => getAddress_address_calls env past _, by simp [h]⟩
    obtain ⟨f, hf⟩ : ∃ f, validate request.params getAddressStruct = .error f := by
      simpa [Request.Rejected, h] using hr
    simp [getAddress, hf, Event.calls]
  next h =>
    refine ⟨fun hr => ?_, by simp [h], fun _ => signTransaction_signOrder env past origin _⟩
    obtain ⟨f, hf⟩ : ∃ f, validate request.params signTransactionStruct = .error f := by
      simpa [Request.Rejected, h] using hr
    simp [signTransaction, hf, Event.calls]
  next h1 h2 => exact ⟨fun _ => rfl, fun h => absurd h h1, fun h => absurd h h2⟩

/-! ## The release comes last -/

def SignStage.released : SignStage → Prop
  | .release _ | .cleanup | .finished | .returned _ => True
  | _ => False

def AddressStage.released : AddressStage → Prop
  | .release _ | .cleanup | .finished | .returned _ => True
  | _ => False

section Released

variable {keypairParams : JsValue} {c : Call}

theorem AddressStage.released_next {q : AddressStage} (hq : q.released) (o : Except JsValue JsValue) :
    (q.next o).released := by
  cases q <;> cases o <;> simp_all [AddressStage.released, AddressStage.next]

theorem AddressStage.released_of_expect {q : AddressStage}
    (hc : q.expect keypairParams = some .dealloc) : q.released := by
  cases q <;> simp_all [AddressStage.released, AddressStage.expect]

theorem AddressStage.dealloc_of_released {q : AddressStage} (hq : q.released)
    (hc : q.expect keypairParams = some c) : c = .dealloc := by
  cases q <;> simp_all [AddressStage.released, AddressStage.expect]

theorem SignStage.released_next {q : SignStage} (hq : q.released) (origin : String)
    (transaction : JsValue) (o : Except JsValue JsValue) : (q.next origin transaction o).released := by
  cases q <;> cases o <;> simp_all [SignStage.released, SignStage.next]

theorem SignStage.released_of_expect {q : SignStage}
    (hc : q.expect keypairParams = some .dealloc) : q.released := by
  cases q <;> simp_all [SignStage.released, SignStage.expect]

theorem SignStage.dealloc_of_released {q : SignStage} (hq : q.released)
    (hc : q.expect keypairParams = some c) : c = .dealloc := by
  cases q <;> simp_all [SignStage.released, SignStage.expect]

end Released

def keyIdZeroParams : JsValue := .object [("keyId", .number (.ofNat 0))]

/-- Collaborators that answer the key request and the encoding, and whose
`wasm.dealloc()` throws. -/
def deallocThrowsEnv : Env := fun _ c => match c with
  | .getBip32PublicKey _ => .ok (.string "0x00abcd")
  | .bechEncodePublicKey _ => .ok (.string "sov1abcd")
  | .dealloc => .error (.error ⟨"Error", none, "dealloc failed"⟩)
  | _ => .error .undefined

/-- Two runs of `getAddress` with valid parameters that do not release exactly once:
a key request that rejects with `undefined` makes the `catch` block's
`er.toString()` throw before `wasm.dealloc()`, so the codec is never released;
a `wasm.dealloc()` that throws in the `try` block is called again in the `catch`
block. -/
theorem getAddress_release_not_once :
    Event.calls ((onRpcRequest "localhost" ⟨"getAddress", keyIdZeroParams⟩).run
        (fun _ _ => .error .undefined) []).events =
      [(.getBip32PublicKey (getKeypairParams (.number (.ofNat 0))), .error .undefined)] ∧
    (Event.calls ((onRpcRequest "localhost" ⟨"getAddress", keyIdZeroParams⟩).run
        deallocThrowsEnv []).events).map Prod.fst =
      [.getBip32PublicKey (getKeypairParams (.number (.ofNat 0))), .bechEncodePublicKey "abcd",
        .dealloc, .dealloc] := by
  decide

end SovereignSnap
