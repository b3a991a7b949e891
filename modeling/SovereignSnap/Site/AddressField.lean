import SovereignSnap.Site.Sequencer
import SovereignSnap.Protocol.Agreement

/-! # What the address field shows

Once set, the page's address is what the wallet's run of the snap for one of the
run's Get Address clicks returned.
-/

namespace SovereignSnap

open Js JsValue Script Protocol

section Snap

variable (wallet : Pending → String × Env × List Event)

/-- The address the wallet's run for the Get Address request sent from `state`
returned, through JSON transport: the codec's encoding of the public key the
custody gateway returned for the key id's path, cleaned of its prefix byte. -/
def AddressFor (state : SovereignState) (address : JsValue) : Prop :=
  ∃ params r pub pk, transport (.object [("keyId", numberField state.keyId)]) = some params ∧
    ((⟨.address, state⟩ : Pending).snapRun wallet "getAddress" params).result = .ok r ∧
    transport r = some address ∧
    (.getBip32PublicKey (getKeypairParams (params.member "keyId")), .ok pub) ∈
      Event.calls ((⟨.address, state⟩ : Pending).snapRun wallet "getAddress" params).events ∧
    cleanPublicKeyResponse pub = .ok pk ∧
    (.bechEncodePublicKey pk, .ok r) ∈
      Event.calls ((⟨.address, state⟩ : Pending).snapRun wallet "getAddress" params).events

/-- The wallet hands a Get Address request in flight the JSON transport of what
its run of the snap on the request's params returned. -/
def Pending.SnapAddressed (p : Pending) (answer : JsValue) : Prop :=
  ∃ params r, transport (.object [("keyId", numberField p.captured.keyId)]) = some params ∧
    (p.snapRun wallet "getAddress" params).result = .ok r ∧ transport r = some answer

variable {wallet}

theorem Pending.SnapAddressed.read {p : Pending} {answer : JsValue} (h : p.SnapAddressed wallet answer)
    (ha : p.awaiting = .address) : AddressFor wallet p.captured answer := by
  obtain ⟨_, captured⟩ := p
  obtain rfl : _ = Awaiting.address := ha
  obtain ⟨params, r, hparams, hr, ht⟩ := h
  obtain ⟨pub, pk, hpub, hclean, hbech⟩ := getAddress_returned params _ _ r hr
  exact ⟨params, r, pub, pk, hparams, hr, ht, hpub, hclean, hbech⟩

end Snap

section Addresses

variable (A : JsValue → Prop)

def AddressIn (state : SovereignState) : Prop := state.address = .undefined ∨ A state.address

/-- The page and every state a request in flight closed over show no address, or
one of the kind `A`. -/
def Page.AddressesIn (page : Page) : Prop := AddressIn A page.state ∧ ∀ p ∈ page.pending, AddressIn A p.captured

variable {A} {A' : JsValue → Prop} {parseJson : String → Except JsValue JsValue}

theorem Page.AddressesIn.mono {page : Page} (h : page.AddressesIn A) (hA : ∀ a, A a → A' a) :
    page.AddressesIn A' :=
  ⟨h.1.imp_right (hA _), fun p hp => (h.2 p hp).imp_right (hA _)⟩

/-- Each event keeps the addresses of the kind `A`, when the answer it hands a
Get Address request, if any, is of that kind. -/
theorem Page.AddressesIn.step {page page' : Page} (h : page.AddressesIn A) {e : PageEvent}
    (hs : ∀ k res p, e = .settle k (.ok res) → page.pending[k]? = some p → p.awaiting = .address → A res)
    (he : page.step parseJson e = some page') : page'.AddressesIn A := by
  cases e with
  | input i =>
    obtain rfl := Option.some.inj he
    exact ⟨by simpa only [AddressIn, (Input.apply_outputs i page.state).2] using h.1, h.2⟩
  | click b =>
    refine ⟨?_, fun q hq => ((Page.step_click he).2 q hq).elim (h.2 q) fun hc => hc ▸ h.1⟩
    rcases Page.click_state parseJson page b he with hs | ⟨v, hs⟩ <;> rw [AddressIn, hs] <;> exact h.1
  | settle k outcome =>
    obtain ⟨p, hp, hm⟩ := Page.step_settle he
    simp only [Page.step, hp, Option.map_some', Option.some.injEq] at he
    subst he
    have hcap := h.2 p (List.getElem?_mem hp)
    refine ⟨?_, fun q hq => (hm.2 q hq).elim (h.2 q) fun hc => hc ▸ hcap⟩
    show AddressIn A (((Page.settleWith p outcome).1).getD page.state)
    cases hst : (Page.settleWith p outcome).1 with
    | none => exact h.1
    | some state =>
      rcases Page.settleWith_writes p outcome hst with ⟨v, rfl⟩ | ⟨res, ha, rfl, rfl⟩ | ⟨res, -, -, rfl⟩
      · exact hcap
      · exact .inr (hs k res p rfl hp ha)
      · exact hcap

end Addresses

/-- The event hands a Get Address request in flight what the wallet's run of the
snap on its params answered, if it is the arrival of an address. -/
def Page.AddressedBySnap (wallet : Pending → String × Env × List Event) (page : Page) : PageEvent → Prop
  | .settle k (.ok res) => ∀ p ∈ page.pending[k]?, p.awaiting = .address → p.SnapAddressed wallet res
  | _ => True

/-- Over every interleaving of edits, clicks and completions from the initial
page in which the wallet answers each Get Address request with what its run of
the snap on that request's params returned, the address the page shows is unset,
or what the wallet's run for the request of one of the run's Get Address clicks
returned: the codec's encoding of the cleaned public key the custody gateway
returned for the path of that click's key id. -/
theorem page_address_from_snap (wallet : Pending → String × Env × List Event)
    (parseJson : String → Except JsValue JsValue) (events : List PageEvent) {page : Page}
    (hrun : initialPage.run parseJson events = some page)
    (hsnap : ∀ n mid e, initialPage.run parseJson (events.take n) = some mid → events[n]? = some e →
      mid.AddressedBySnap wallet e) :
    page.state.address = .undefined ∨ ∃ n mid, events[n]? = some (.click .getAddress) ∧
      initialPage.run parseJson (events.take n) = some mid ∧ AddressFor wallet mid.state page.state.address := by
  have h : page.AddressesIn (AtClick parseJson .getAddress (AddressFor wallet) events) := by
    refine Page.run_invariant (P := fun events page =>
      page.AddressesIn (AtClick parseJson .getAddress (AddressFor wallet) events))
      ⟨.inl rfl, fun _ => nofun⟩ ?_ events hrun hsnap
    intro events page e page' hrun h hlast he
    refine (h.mono fun a h => h.snoc e).step (fun k res p hk hp ha => ?_) he
    subst hk
    exact (AtClick.of_pending hrun hp (fun _ hb => Button.sends_address (ha ▸ hb))
      ((hlast p hp ha).read ha)).snoc _
  exact h.1

/-- A wallet whose collaborators answer as the custody gateway and codec agree. -/
def agreeingWallet : Pending → String × Env × List Event :=
  fun _ => ("localhost", Env.ofAnswers agreeingAnswers, [])

/-- Get Address and the agreeing wallet's answer for the initial key id `0`. -/
theorem page_address_from_snap_after_get_address :
    initialPage.run (fun _ => .ok (.object [])) [.click .getAddress, .settle 0 (.ok (.string "sov1abcd"))] =
        some ⟨{ initialState with address := .string "sov1abcd" }, [],
          [.invokeSnap "getAddress" (.object [("keyId", numberField initialState.keyId)])]⟩ ∧
      (∀ n mid e, initialPage.run (fun _ => .ok (.object []))
          ([PageEvent.click .getAddress, .settle 0 (.ok (.string "sov1abcd"))].take n) = some mid →
        [PageEvent.click .getAddress, .settle 0 (.ok (.string "sov1abcd"))][n]? = some e →
        mid.AddressedBySnap agreeingWallet e) ∧
      (({ initialState with address := .string "sov1abcd" } : SovereignState).address = .undefined ∨
        ∃ n mid, [PageEvent.click .getAddress, .settle 0 (.ok (.string "sov1abcd"))][n]? =
            some (.click .getAddress) ∧
          initialPage.run (fun _ => .ok (.object []))
            ([PageEvent.click .getAddress, .settle 0 (.ok (.string "sov1abcd"))].take n) = some mid ∧
          AddressFor agreeingWallet mid.state (.string "sov1abcd")) :=
  have hrun : initialPage.run (fun _ => .ok (.object [])) [.click .getAddress, .settle 0 (.ok (.string "sov1abcd"))] =
      some ⟨{ initialState with address := .string "sov1abcd" }, [],
        [.invokeSnap "getAddress" (.object [("keyId", numberField initialState.keyId)])]⟩ := rfl
  have haddressed : (⟨.address, initialState⟩ : Pending).SnapAddressed agreeingWallet (.string "sov1abcd") :=
    ⟨keyIdZeroParams, .string "sov1abcd", by decide, by decide, rfl⟩
  have hsnap : ∀ n mid e, initialPage.run (fun _ => .ok (.object []))
      ([PageEvent.click .getAddress, .settle 0 (.ok (.string "sov1abcd"))].take n) = some mid →
      [PageEvent.click .getAddress, .settle 0 (.ok (.string "sov1abcd"))][n]? = some e →
      mid.AddressedBySnap agreeingWallet e
    | 0, _, _, _, he => by cases he; trivial
    | 1, mid, _, hmid, he => by
      cases he
      obtain rfl := Option.some.inj (hmid.symm.trans (show initialPage.run (fun _ => .ok (.object []))
        [.click .getAddress] = some ⟨initialState, [⟨.address, initialState⟩],
          [.invokeSnap "getAddress" (.object [("keyId", numberField initialState.keyId)])]⟩ from rfl))
      intro p hp _
      cases hp
      exact haddressed
    | _ + 2, _, _, _, he => by cases he
  ⟨hrun, hsnap, page_address_from_snap _ _ _ hrun hsnap⟩

end SovereignSnap
