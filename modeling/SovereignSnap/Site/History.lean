import SovereignSnap.Site.Page

/-! # Where a completion's state comes from

A completion sets the state the page had just before the click that sent its
request, with one output field written.
-/

namespace SovereignSnap

open Js JsValue

/-- The kind of request a click of each button sends. -/
def Button.Sends : Button → Awaiting → Prop
  | .getAddress, a => a = .address
  | .sign, a => a = .signature
  | .submitTx, a | .submitBatch, a => a = .response ∨ a = .responseData

theorem Button.sends_address {b : Button} (h : b.Sends .address) : b = .getAddress := by
  cases b <;> simp_all [Button.Sends]

theorem Button.sends_signature {b : Button} (h : b.Sends .signature) : b = .sign := by
  cases b <;> simp_all [Button.Sends]

theorem Button.Sends.next {b : Button} (h : b.Sends .response) : b.Sends .responseData := by
  cases b <;> simp_all [Button.Sends]

namespace Page

variable (parseJson : String → Except JsValue JsValue)

/-- Which click sent each request in flight, as event indices in the order of
`pending`: a click that sends a request adds its index `i`, a completion that
ends its request drops that request's index. -/
def trackSenders (page page' : Page) (senders : List Nat) (i : Nat) : PageEvent → List Nat
  | .click _ => if page.pending.length < page'.pending.length then senders ++ [i] else senders
  | .settle k _ => if page'.pending.length < page.pending.length then senders.eraseIdx k else senders
  | .input _ => senders

def runSenders : Page → List Nat → Nat → List PageEvent → List Nat
  | _, senders, _, [] => senders
  | page, senders, i, e :: es => match page.step parseJson e with
    | some page' => runSenders page' (trackSenders page page' senders i e) (i + 1) es
    | none => senders

/-- The index among `events` of the click that sent each request in flight after them. -/
def senders (events : List PageEvent) : List Nat := initialPage.runSenders parseJson [] 0 events

variable {parseJson}

theorem runSenders_snoc {page mid page' : Page} {senders : List Nat} {i : Nat} {es : List PageEvent}
    {e : PageEvent} (hrun : page.run parseJson es = some mid) (he : mid.step parseJson e = some page') :
    page.runSenders parseJson senders i (es ++ [e]) =
      trackSenders mid page' (page.runSenders parseJson senders i es) (i + es.length) e := by
  induction es generalizing page senders i with
  | nil => obtain rfl := Option.some.inj hrun; simp [runSenders, he]
  | cons e₀ es ih =>
    simp only [run, Option.bind_eq_some] at hrun
    obtain ⟨page₀, h₀, hrest⟩ := hrun
    rw [List.cons_append]
    simp only [runSenders, h₀]
    rw [ih hrest, List.length_cons, Nat.add_right_comm, Nat.add_assoc]

/-- A click leaves the requests in flight as they are, or sends one more, of the
kind its button sends, over the current state. -/
theorem click_pending {page page' : Page} {b : Button}
    (he : page.step parseJson (.click b) = some page') : page'.pending = page.pending ∨ ∃ a, b.Sends a ∧ page'.pending = page.pending ++ [⟨a, page.state⟩] := by
  cases b <;> simp only [step, Option.some.injEq] at he <;> subst he
  case getAddress => exact .inr ⟨_, rfl, rfl⟩
  case sign =>
    unfold signClick
    split
    · exact .inr ⟨_, rfl, rfl⟩
    · exact .inl rfl
  all_goals
    unfold submit submitSequencer
    repeat' split
    all_goals first | exact .inl rfl | exact .inr ⟨_, .inl rfl, rfl⟩

theorem settleWith_next {p q : Pending} {outcome : Except JsValue JsValue}
    (h : (settleWith p outcome).2 = some q) : p.awaiting = .response ∧ q = ⟨.responseData, p.captured⟩ := by
  obtain ⟨a, captured⟩ := p
  cases outcome <;> cases a <;> simp only [settleWith, reduceCtorEq] at h
  case ok.response res =>
    repeat' split at h
    all_goals cases h
    exact ⟨rfl, rfl⟩

/-- A completion takes its request out of flight, or puts the next promise its
handler awaits in its place, over the same state. -/
theorem settle_pending {page page' : Page} {k : Nat} {outcome : Except JsValue JsValue}
    (he : page.step parseJson (.settle k outcome) = some page') :
    ∃ p, page.pending[k]? = some p ∧ (page'.pending = page.pending.eraseIdx k ∨
      page'.pending = page.pending.set k ⟨.responseData, p.captured⟩ ∧ p.awaiting = .response) := by
  simp only [step, Option.map_eq_some'] at he
  obtain ⟨p, hp, rfl⟩ := he
  refine ⟨p, hp, ?_⟩
  simp only [settle]
  split
  · rename_i next hnext
    obtain ⟨hr, rfl⟩ := settleWith_next hnext
    exact .inr ⟨rfl, hr⟩
  · exact .inl rfl

/-- The click at `n` among `events` sent `p`: a click of a button that sends its
kind, on the state the page had just before. -/
def SentAt (parseJson : String → Except JsValue JsValue) (events : List PageEvent) (p : Pending)
    (n : Nat) : Prop :=
  ∃ b mid, events[n]? = some (.click b) ∧ Button.Sends b p.awaiting ∧
    initialPage.run parseJson (events.take n) = some mid ∧ mid.state = p.captured

/-- Each request in flight was sent by the click at its index in `senders`. -/
def SentBy (parseJson : String → Except JsValue JsValue) (events : List PageEvent) (page : Page)
    (senders : List Nat) : Prop :=
  senders.length = page.pending.length ∧
    ∀ (k : Nat) (p : Pending), page.pending[k]? = some p → ∃ n, senders[k]? = some n ∧ SentAt parseJson events p n

end Page

theorem getElem?_append_singleton {α : Type} {l : List α} {a x : α} {j : Nat} (h : (l ++ [a])[j]? = some x) :
    j < l.length ∧ l[j]? = some x ∨ j = l.length ∧ a = x := by
  rcases Nat.lt_or_ge j l.length with hj | hj
  · exact .inl ⟨hj, by rwa [List.getElem?_append_left hj] at h⟩
  · rw [List.getElem?_append_right hj] at h
    cases hm : j - l.length <;> simp_all
    omega

theorem getElem?_take_snoc {events : List PageEvent} {n : Nat} {x : PageEvent} (hn : events[n]? = some x)
    (e : PageEvent) : (events ++ [e])[n]? = some x ∧ (events ++ [e]).take n = events.take n := by
  have hlt : n < events.length := (List.getElem?_eq_some_iff.1 hn).1
  exact ⟨by rw [List.getElem?_append_left hlt, hn], List.take_append_of_le_length hlt.le⟩

variable {parseJson : String → Except JsValue JsValue}

theorem Page.SentAt.snoc {events : List PageEvent} {p : Pending} {n : Nat} (h : Page.SentAt parseJson events p n)
    (e : PageEvent) : Page.SentAt parseJson (events ++ [e]) p n := by
  obtain ⟨b, mid, hc, hb, hmid, hs⟩ := h
  obtain ⟨hc', ht⟩ := getElem?_take_snoc hc e
  exact ⟨b, mid, hc', hb, ht ▸ hmid, hs⟩

/-- One event keeps every request in flight tied to the click that sent it. -/
theorem Page.SentBy.step {events : List PageEvent} {page page' : Page} {senders : List Nat} {e : PageEvent}
    (h : page.SentBy parseJson events senders) (hrun : initialPage.run parseJson events = some page)
    (he : page.step parseJson e = some page') :
    page'.SentBy parseJson (events ++ [e]) (Page.trackSenders page page' senders events.length e) := by
  have old : ∀ (j : Nat) (p : Pending), page.pending[j]? = some p →
      ∃ n, senders[j]? = some n ∧ Page.SentAt parseJson (events ++ [e]) p n :=
    fun j p hj => (h.2 j p hj).imp fun _ hn => ⟨hn.1, hn.2.snoc e⟩
  cases e with
  | input i =>
    obtain rfl := Option.some.inj he
    exact ⟨h.1, old⟩
  | click b =>
    rcases Page.click_pending he with hp | ⟨a, hb, hp⟩ <;> rw [Page.SentBy, Page.trackSenders, hp]
    · rw [if_neg (lt_irrefl _)]
      exact ⟨h.1, old⟩
    · rw [if_pos (by simp)]
      refine ⟨by simp [h.1], fun j p hj => ?_⟩
      rcases getElem?_append_singleton hj with ⟨hlt, hj⟩ | ⟨rfl, rfl⟩
      · obtain ⟨n, hn, hat⟩ := old j p hj
        exact ⟨n, by rwa [List.getElem?_append_left (h.1 ▸ hlt)], hat⟩
      · exact ⟨events.length, by simp [← h.1], b, page, by simp, hb, by rw [List.take_left' rfl, hrun], rfl⟩
  | settle k outcome =>
    obtain ⟨p, hp, hpend | ⟨hpend, hresp⟩⟩ := Page.settle_pending he <;>
      have hk : k < page.pending.length := (List.getElem?_eq_some_iff.1 hp).1 <;>
      rw [Page.SentBy, Page.trackSenders, hpend]
    · rw [if_pos (by rw [List.length_eraseIdx_of_lt hk]; omega)]
      refine ⟨by simp [List.length_eraseIdx, h.1], fun j q hj => ?_⟩
      by_cases hjk : j < k <;> simp only [List.getElem?_eraseIdx, hjk, if_true, if_false] at hj ⊢ <;>
        exact old _ _ hj
    · rw [List.length_set, if_neg (lt_irrefl _)]
      refine ⟨h.1, fun j q hj => ?_⟩
      rw [List.getElem?_set] at hj
      split_ifs at hj with hkj
      · obtain rfl := hkj
        obtain rfl := Option.some.inj hj
        obtain ⟨n, hn, b, mid, hc, hb, hmid, hs⟩ := old k p hp
        exact ⟨n, hn, b, mid, hc, (hresp ▸ hb).next, hmid, hs⟩
      · exact old j q hj

/-- Induction over the runs from the initial page, one event at a time, each
event meeting a condition at the page it happens to. -/
theorem Page.run_invariant {P : List PageEvent → Page → Prop} {C : Page → PageEvent → Prop}
    (h0 : P [] initialPage)
    (hstep : ∀ events page e page', initialPage.run parseJson events = some page → P events page →
      C page e → page.step parseJson e = some page' → P (events ++ [e]) page')
    (events : List PageEvent) {page : Page} (hrun : initialPage.run parseJson events = some page)
    (hc : ∀ n mid e, initialPage.run parseJson (events.take n) = some mid → events[n]? = some e → C mid e) :
    P events page := by
  induction events using List.reverseRecOn generalizing page with
  | nil => exact Option.some.inj hrun ▸ h0
  | append_singleton events e ih =>
    rw [Page.run_append, Option.bind_eq_some] at hrun
    obtain ⟨mid, hmid, hstep'⟩ := hrun
    simp only [Page.run, Option.bind_eq_some] at hstep'
    obtain ⟨page', he, hrest⟩ := hstep'
    obtain rfl := Option.some.inj hrest
    have hpre : ∀ n mid' e', initialPage.run parseJson (events.take n) = some mid' → events[n]? = some e' →
        C mid' e' := fun n mid' e' hmid' he' => by
      obtain ⟨he'', htake⟩ := getElem?_take_snoc he' e
      exact hc n mid' e' (htake ▸ hmid') he''
    exact hstep events mid e _ hmid (ih hmid hpre)
      (hc events.length mid e (by rw [List.take_left' rfl, hmid]) (by simp)) he

/-- In every run from the initial page, each request in flight was sent by the
click `Page.senders` names for it. -/
theorem Page.sentBy_run (events : List PageEvent) {page : Page}
    (hrun : initialPage.run parseJson events = some page) :
    page.SentBy parseJson events (Page.senders parseJson events) := by
  refine Page.run_invariant (C := fun _ _ => True) (P := fun events page =>
    page.SentBy parseJson events (Page.senders parseJson events)) ⟨rfl, fun _ _ => nofun⟩ ?_ events hrun
    fun _ _ _ _ _ => trivial
  intro events page e page' hrun h _ he
  rw [Page.senders, Page.runSenders_snoc hrun he, Nat.zero_add]
  exact h.step hrun he

/-- In every run from the initial page, the completion of the `k`-th request in
flight leaves the state as it is, or sets the state the page had just before the
click that sent that request, with only the address, the transaction or the
status changed. -/
theorem completion_restores_click_state (parseJson : String → Except JsValue JsValue)
    (events : List PageEvent) (k : Nat) (outcome : Except JsValue JsValue) {page page' : Page}
    (hrun : initialPage.run parseJson events = some page)
    (he : page.step parseJson (.settle k outcome) = some page') :
    ∃ n b mid, (Page.senders parseJson events)[k]? = some n ∧ events[n]? = some (.click b) ∧
      initialPage.run parseJson (events.take n) = some mid ∧
      (page'.state = page.state ∨ mid.state.WithOutput page'.state) := by
  obtain ⟨p, hp, hs, -⟩ := Page.step_settle he
  obtain ⟨n, hn, b, mid, hc, -, hmid, hcap⟩ := (Page.sentBy_run events hrun).2 k p hp
  exact ⟨n, b, mid, hn, hc, hmid, hcap ▸ hs⟩

/-- Sign, a typed nonce, and the signature's arrival: the sender is the click at `0`. -/
theorem completion_restores_click_state_of_typed_nonce :
    initialPage.run (fun _ => .ok (.object [])) [.click .sign, .input (.nonce fiveInput)] =
        some ⟨{ initialState with nonce := .ofNat 5 }, [⟨.signature, initialState⟩],
          [.invokeSnap "signTransaction" (signParams initialState (.object []))]⟩ ∧
      Page.step (fun _ => .ok (.object []))
          ⟨{ initialState with nonce := .ofNat 5 }, [⟨.signature, initialState⟩],
            [.invokeSnap "signTransaction" (signParams initialState (.object []))]⟩
          (.settle 0 (.ok (.string "0xab"))) =
        some ⟨{ initialState with tx := .string "0xab" }, [],
          [.invokeSnap "signTransaction" (signParams initialState (.object []))]⟩ ∧
      Page.senders (fun _ => .ok (.object [])) [.click .sign, .input (.nonce fiveInput)] = [0] ∧
      ∃ n b mid, (Page.senders (fun _ => .ok (.object [])) [.click .sign, .input (.nonce fiveInput)])[0]? =
          some n ∧ ([PageEvent.click .sign, .input (.nonce fiveInput)])[n]? = some (.click b) ∧
        initialPage.run (fun _ => .ok (.object [])) ([PageEvent.click .sign, .input (.nonce fiveInput)].take n) =
          some mid ∧
        (({ initialState with tx := .string "0xab" } : SovereignState) =
            ({ initialState with nonce := .ofNat 5 } : SovereignState) ∨
          mid.state.WithOutput { initialState with tx := .string "0xab" }) :=
  have hrun : initialPage.run (fun _ => .ok (.object [])) [.click .sign, .input (.nonce fiveInput)] =
      some ⟨{ initialState with nonce := .ofNat 5 }, [⟨.signature, initialState⟩],
        [.invokeSnap "signTransaction" (signParams initialState (.object []))]⟩ := rfl
  have he : Page.step (fun _ => .ok (.object []))
      ⟨{ initialState with nonce := .ofNat 5 }, [⟨.signature, initialState⟩],
        [.invokeSnap "signTransaction" (signParams initialState (.object []))]⟩
      (.settle 0 (.ok (.string "0xab"))) =
      some ⟨{ initialState with tx := .string "0xab" }, [],
        [.invokeSnap "signTransaction" (signParams initialState (.object []))]⟩ := rfl
  ⟨hrun, he, rfl, completion_restores_click_state _ _ 0 _ hrun he⟩

end SovereignSnap
