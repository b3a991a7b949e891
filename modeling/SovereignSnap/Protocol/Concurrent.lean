import SovereignSnap.Protocol.Interleaving

/-! # What each request keeps in every interleaving

The order of each request's calls and the data of its signing calls hold at every
point of every interleaving, for every schedule.
-/

namespace SovereignSnap

open Js JsValue Script Protocol

theorem calls_of_reaches_rejection {l l' : Level} {m m' : String} {r : Except JsValue JsValue}
    {es : List Event} {s : Script JsValue} (h : (console l m (console l' m' (done r))).Reaches es s) :
    Event.calls es = [] := by
  rcases h with _ | ⟨_ | ⟨_ | _⟩⟩ <;> rfl

theorem AddressStage.isAddressCall_of_expect {keypairParams : JsValue} {q : AddressStage} {c : Call}
    (hc : q.expect keypairParams = some c) : c.isAddressCall := by
  cases q <;> simp only [AddressStage.expect, Option.some.injEq, reduceCtorEq] at hc <;>
    simp [← hc, Call.isAddressCall]

/-- The order of the collaborator calls holds in every partial run of `onRpcRequest`. -/
theorem onRpcRequest_reaches_order (origin : String) (request : Request) {es : List Event}
    {s : Script JsValue} (hr : (onRpcRequest origin request).Reaches es s) :
    ProtocolOrder request (Event.calls es) := by
  unfold onRpcRequest at hr
  split at hr
  next h =>
    refine ⟨fun hrej => ?_, fun _ x hx => ?_, by simp [h]⟩
    · obtain ⟨f, hf⟩ : ∃ f, validate request.params getAddressStruct = .error f := by
        simpa [Request.Rejected, h] using hrej
      simp only [getAddress, hf, write_bind, throw_eq] at hr
      exact calls_of_reaches_rejection hr
    · obtain ⟨hcalls, -⟩ := Follows.reaches_invariant _ (fun _ _ => True) (fun _ _ _ _ _ _ => trivial)
        (getAddress_follows_member request.params) hr trivial
      obtain ⟨i, hi⟩ := List.mem_iff_getElem?.1 hx
      obtain ⟨q, hq, -⟩ := hcalls i x hi
      exact AddressStage.isAddressCall_of_expect hq
  next h =>
    refine ⟨fun hrej => ?_, by simp [h], fun _ => ?_⟩
    · obtain ⟨f, hf⟩ : ∃ f, validate request.params signTransactionStruct = .error f := by
        simpa [Request.Rejected, h] using hrej
      simp only [signTransaction, hf, write_bind, throw_eq] at hr
      exact calls_of_reaches_rejection hr
    · obtain ⟨hcalls, q, hq, -⟩ := Follows.reaches_invariant _ (SignStage.history _)
        (fun _ _ _ o h hc => history_step origin _ o h hc) (signTransaction_follows_member origin _) hr rfl
      exact signOrder_of_history hcalls ⟨q, hq⟩
  next h1 h2 =>
    cases hr
    exact ⟨fun _ => rfl, fun h => absurd h h1, fun h => absurd h h2⟩

/-- In every partial run of `onRpcRequest`, no call but the release follows a release. -/
theorem onRpcRequest_reaches_dealloc_last (origin : String) (request : Request) {es : List Event}
    {s : Script JsValue} (hr : (onRpcRequest origin request).Reaches es s) (i : Nat)
    (x : Call × Except JsValue JsValue) (hx : (Event.calls es)[i]? = some x)
    (hy : ∃ y ∈ (Event.calls es).take i, y.1 = .dealloc) : x.1 = .dealloc := by
  unfold onRpcRequest at hr
  split at hr
  · exact Follows.after_trigger _ AddressStage.released (· = .dealloc) (· = .dealloc)
      (fun _ o hq => AddressStage.released_next hq o) (fun _ _ hc hd => AddressStage.released_of_expect (hd ▸ hc))
      (fun _ _ hq hc => AddressStage.dealloc_of_released hq hc) (getAddress_follows_member _) hr i x hx hy
  · exact Follows.after_trigger _ SignStage.released (· = .dealloc) (· = .dealloc)
      (fun _ o hq => SignStage.released_next hq _ _ o) (fun _ _ hc hd => SignStage.released_of_expect (hd ▸ hc))
      (fun _ _ hq hc => SignStage.dealloc_of_released hq hc) (signTransaction_follows_member _ _) hr i x hx hy
  · cases hr
    simp [Event.calls] at hx

theorem Loop.own_reaches (env : Env) (requests : List (String × Request)) (schedule : List Nat)
    {a : Nat} {origin : String} {request : Request} (ha : requests[a]? = some (origin, request)) :
    ∃ s, (onRpcRequest origin request).Reaches
      (Loop.own a ((Loop.start requests).exec env schedule).trace) s := by
  obtain ⟨s, -, hr⟩ := ((Loop.inv_start requests).exec env schedule).reaches a
    (onRpcRequest origin request) (by simp [ha])
  exact ⟨s, hr⟩

/-- In every interleaving of requests and for every schedule, each request's own
calls keep the order of its handler: none if it was turned away, only the key
request, the encoding and the release for `getAddress`, the signing order for
`signTransaction`; and no call but the release follows its release of the codec. -/
theorem interleaving_protocol_order (env : Env) (requests : List (String × Request))
    (schedule : List Nat) {a : Nat} {origin : String} {request : Request}
    (ha : requests[a]? = some (origin, request)) :
    ProtocolOrder request (Event.calls (Loop.own a ((Loop.start requests).exec env schedule).trace)) ∧
      ∀ i x, (Event.calls (Loop.own a ((Loop.start requests).exec env schedule).trace))[i]? = some x →
        (∃ y ∈ (Event.calls (Loop.own a ((Loop.start requests).exec env schedule).trace)).take i,
          y.1 = .dealloc) → x.1 = .dealloc := by
  obtain ⟨s, hr⟩ := Loop.own_reaches env requests schedule ha
  exact ⟨onRpcRequest_reaches_order origin request hr, onRpcRequest_reaches_dealloc_last origin request hr⟩

theorem interleaving_protocol_order_pending_signature :
    signAndAddressRequests[0]? = some ("localhost", ⟨"signTransaction", testSignParams⟩) ∧
      ProtocolOrder ⟨"signTransaction", testSignParams⟩ (Event.calls (Loop.own 0
        ((Loop.start signAndAddressRequests).exec (Env.ofAnswers sharedCodecAnswers)
          pendingSignatureSchedule).trace)) ∧
      ∀ i x, (Event.calls (Loop.own 0 ((Loop.start signAndAddressRequests).exec
          (Env.ofAnswers sharedCodecAnswers) pendingSignatureSchedule).trace))[i]? = some x →
        (∃ y ∈ (Event.calls (Loop.own 0 ((Loop.start signAndAddressRequests).exec
          (Env.ofAnswers sharedCodecAnswers) pendingSignatureSchedule).trace)).take i, y.1 = .dealloc) →
        x.1 = .dealloc :=
  ⟨rfl, interleaving_protocol_order _ _ _ rfl⟩

theorem Flow.assembly {origin : String} {params : JsValue} {calls : Calls} {res : Except JsValue JsValue}
    (hflow : Flow origin (params.member "transaction") calls) (hp : SignParamsShape params)
    (hkeys : ((params.member "transaction").ownProps.map Prod.fst).Nodup)
    (hres : ∀ r, res = .ok r → ∃ s tx h, r = .string h ∧ (.serializeTransaction s, .ok tx) ∈ calls ∧
      bytesToHex tx = .ok h) :
    Assembly origin (params.member "transaction") calls res :=
  ⟨fun _ _ hx => (hflow _ hx).eq hp.transaction hkeys, fun _ _ _ hx => (hflow _ hx).imp fun _ h => h.2,
    fun _ _ hx => Signed.eq hp.transaction hkeys (hflow _ hx), hres⟩

theorem signTransaction_reaches_assembly (origin : String) (params : JsValue) {es : List Event}
    {s : Script JsValue} (hr : (signTransaction origin params).Reaches es s) (hp : SignParamsShape params)
    (hkeys : ((params.member "transaction").ownProps.map Prod.fst).Nodup) :
    ∃ res, Assembly origin (params.member "transaction") (Event.calls es) res ∧
      ∀ r, s = .done r → res = r := by
  obtain ⟨-, q, ⟨hflow, hfacts⟩, hfol⟩ := Follows.reaches_invariant _
    (SignStage.flow origin (params.member "transaction")) (fun _ _ _ o h hc => flow_step o h hc)
    (signTransaction_follows_member origin params) hr ⟨fun _ h => by simp at h, trivial⟩
  cases s with
  | done r =>
    refine ⟨r, hflow.assembly hp hkeys fun v hv => ?_, fun _ h => Script.done.inj h⟩
    rw [hv, Protocol.follows_done, signProtocol_result] at hfol
    cases q <;> simp only [SignStage.result] at hfol
    obtain ⟨s, tx, -, hm, hh⟩ := hfacts
    exact ⟨s, tx, _, Except.ok.inj hfol, hm, hh⟩
  | _ => exact ⟨.error .undefined, hflow.assembly hp hkeys fun _ => nofun, fun _ => nofun⟩

/-- In every interleaving of requests and for every schedule, the calls each
signing request has made so far are made with data of its own run: the unsigned
transaction built from its own serialized call message, `sign` over the
serialization of that unsigned transaction, the signed transaction from the key
its own approved dialog showed and its own signature; and once it has finished,
its answer is the hex of its own serialized signed transaction. The codec shared
by all requests mixes no data between them. -/
theorem interleaving_assembly (env : Env) (requests : List (String × Request)) (schedule : List Nat)
    {a : Nat} {origin : String} {params : JsValue}
    (ha : requests[a]? = some (origin, ⟨"signTransaction", params⟩)) (hp : SignParamsShape params)
    (hkeys : ((params.member "transaction").ownProps.map Prod.fst).Nodup) :
    ∃ res, Assembly origin (params.member "transaction")
        (Event.calls (Loop.own a ((Loop.start requests).exec env schedule).trace)) res ∧
      ∀ r, ((Loop.start requests).exec env schedule).tasks[a]? = some (.done r) → res = r := by
  obtain ⟨s, hs, hr⟩ := ((Loop.inv_start requests).exec env schedule).reaches a
    (onRpcRequest origin ⟨"signTransaction", params⟩) (by simp [ha])
  obtain ⟨res, hasm, hres⟩ := signTransaction_reaches_assembly origin params hr hp hkeys
  exact ⟨res, hasm, fun r hd => hres r (Option.some.inj (hs.symm.trans hd))⟩

theorem interleaving_assembly_pending_signature :
    signAndAddressRequests[0]? = some ("localhost", ⟨"signTransaction", testSignParams⟩) ∧
      SignParamsShape testSignParams ∧ ((testSignParams.member "transaction").ownProps.map Prod.fst).Nodup ∧
      ∃ res, Assembly "localhost" (testSignParams.member "transaction")
          (Event.calls (Loop.own 0 ((Loop.start signAndAddressRequests).exec (Env.ofAnswers sharedCodecAnswers)
            pendingSignatureSchedule).trace)) res ∧
        ∀ r, ((Loop.start signAndAddressRequests).exec (Env.ofAnswers sharedCodecAnswers)
          pendingSignatureSchedule).tasks[0]? = some (.done r) → res = r :=
  have hp := (validate_signTransactionStruct testSignParams).1 ⟨testSignParams, by decide⟩
  have hkeys : ((testSignParams.member "transaction").ownProps.map Prod.fst).Nodup := by decide
  ⟨rfl, hp, hkeys, interleaving_assembly _ _ _ rfl hp hkeys⟩

/-! ## Collaborators without memory -/

section Memoryless

variable (answer : Call → Except JsValue JsValue)

theorem run_ofAnswers_past {α : Type} (s : Script α) (past past' : List Event) :
    s.run (Env.ofAnswers answer) past = s.run (Env.ofAnswers answer) past' := by
  induction s generalizing past past' with
  | done r => rfl
  | console l m next ih => rw [run_console, run_console, ih (past ++ _) (past' ++ _)]
  | invoke c k ih => rw [run_invoke, run_invoke, ih _ (past ++ _) (past' ++ _)]; rfl

/-- A partial run whose calls had the answers of collaborators without memory
is the start of the run, and the rest of the run is the run of what is left. -/
theorem Script.Reaches.run_ofAnswers {α : Type} {s s' : Script α} {es : List Event} (hr : s.Reaches es s')
    (hc : ∀ x ∈ Event.calls es, x.2 = answer x.1) (past : List Event) :
    s.run (Env.ofAnswers answer) past =
      ⟨es ++ (s'.run (Env.ofAnswers answer) past).events, (s'.run (Env.ofAnswers answer) past).result⟩ := by
  induction hr generalizing past with
  | refl => rfl
  | console _ ih =>
    rw [run_console, run_ofAnswers_past answer _ _ past, ih hc]
    rfl
  | @invoke c k o s' es _ ih =>
    simp only [Event.calls, List.mem_cons, forall_eq_or_imp] at hc
    obtain ⟨rfl, hc⟩ := hc
    rw [run_invoke, run_ofAnswers_past answer _ _ past]
    simp only [Env.ofAnswers] at ih ⊢
    rw [ih hc]
    rfl

theorem sync_calls_ofAnswers {α : Type} (s : Script α) (past : List Event) :
    ∀ x ∈ Event.calls (s.sync (Env.ofAnswers answer) past).1, x.2 = answer x.1 := by
  induction s generalizing past with
  | done r => simp [Script.sync, Event.calls]
  | console l m next ih => simpa [Script.sync, Event.calls] using ih _
  | invoke c k ih =>
    by_cases hc : c.awaited
    · simp [Script.sync, hc, Event.calls]
    · simpa [Script.sync, hc, Event.calls, Env.ofAnswers] using ih _ _

theorem resume_calls_ofAnswers {α : Type} (s : Script α) (past : List Event) :
    ∀ x ∈ Event.calls (s.resume (Env.ofAnswers answer) past).1, x.2 = answer x.1 := by
  cases s with
  | done r => simp [Script.resume, Event.calls]
  | console l m next => simpa [Script.resume, Event.calls] using sync_calls_ofAnswers answer next _
  | invoke c k => simpa [Script.resume, Event.calls, Env.ofAnswers] using sync_calls_ofAnswers answer _ _

/-- Against collaborators without memory every call in the loop's trace has
their answer. -/
theorem Loop.exec_calls_ofAnswers {loop : Loop} (h : ∀ x ∈ Event.calls (loop.trace.map Prod.snd), x.2 = answer x.1)
    (schedule : List Nat) :
    ∀ x ∈ Event.calls ((loop.exec (Env.ofAnswers answer) schedule).trace.map Prod.snd), x.2 = answer x.1 := by
  induction schedule generalizing loop with
  | nil => exact h
  | cons b schedule ih =>
    refine ih ?_
    unfold Loop.step
    split
    · exact h
    · simp only [List.map_append, List.map_map, Event.calls_append, List.mem_append]
      rintro x (hx | hx)
      · exact h x hx
      · exact resume_calls_ofAnswers answer _ _ x (by simpa [Function.comp_def] using hx)

end Memoryless

/-- Against collaborators without memory the loop runs each task as the task
alone would run: its events so far start that run, and once it is done its
events and result are that run's. -/
theorem Loop.exec_matches_run_alone (answer : Call → Except JsValue JsValue) (init : List (Script JsValue))
    (schedule : List Nat) {a : Nat} {s0 : Script JsValue} (ha : init[a]? = some s0) :
    (∃ rest, (s0.run (Env.ofAnswers answer) []).events =
        Loop.own a ((⟨init, []⟩ : Loop).exec (Env.ofAnswers answer) schedule).trace ++ rest) ∧
      ∀ r, ((⟨init, []⟩ : Loop).exec (Env.ofAnswers answer) schedule).tasks[a]? = some (.done r) →
        Loop.own a ((⟨init, []⟩ : Loop).exec (Env.ofAnswers answer) schedule).trace =
          (s0.run (Env.ofAnswers answer) []).events ∧ r = (s0.run (Env.ofAnswers answer) []).result := by
  obtain ⟨s, hs, hr⟩ := ((Loop.inv_init init).exec (Env.ofAnswers answer) schedule).reaches a s0 ha
  have hc : ∀ x ∈ Event.calls (Loop.own a ((⟨init, []⟩ : Loop).exec (Env.ofAnswers answer) schedule).trace),
      x.2 = answer x.1 := fun x hx =>
    Loop.exec_calls_ofAnswers answer (by simp [Event.calls]) schedule x
      (Event.mem_calls.2 (List.mem_map.2 ⟨(a, _), Loop.mem_own.1 (Event.mem_calls.1 hx), rfl⟩))
  have hrun := hr.run_ofAnswers answer hc []
  refine ⟨⟨_, congrArg Run.events hrun⟩, fun r hd => ?_⟩
  obtain rfl := Option.some.inj (hs.symm.trans hd)
  rw [run_done, List.append_nil] at hrun
  exact ⟨(congrArg Run.events hrun).symm, (congrArg Run.result hrun).symm⟩

end SovereignSnap
