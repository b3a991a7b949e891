import SovereignSnap.Validation
import SovereignSnap.Protocol.Machine

/-! # What a validation error names

Every failure superstruct reports ends a path of its walk at a struct whose own
validator rejects the value there, so the error names the field it checked.
-/

namespace SovereignSnap

open Js JsValue Script

namespace Struct

/-- `PathTo s v path t w`: following `path` from the struct `s` at the value `v`,
superstruct's walk reaches the struct `t` at the value `w`. -/
inductive PathTo : Struct → JsValue → List String → Struct → JsValue → Prop where
  | here (s : Struct) (v : JsValue) : PathTo s v [] s v
  | objectKey {schema : List (String × Struct)} {k : String} {s : Struct} {v : JsValue} {rest : List String}
      {t : Struct} {w : JsValue} :
      (k, s) ∈ schema → PathTo s (v.member k) rest t w → PathTo (.object schema) v (k :: rest) t w
  | typeKey {schema : List (String × Struct)} {k : String} {s : Struct} {v : JsValue} {rest : List String}
      {t : Struct} {w : JsValue} :
      (k, s) ∈ schema → PathTo s (v.member k) rest t w → PathTo (.type schema) v (k :: rest) t w
  | unknownKey {schema : List (String × Struct)} {v : JsValue} {p : String × JsValue} :
      p ∈ v.ownProps → p.1 ∉ schema.map Prod.fst → PathTo (.object schema) v [p.1] .never p.2
  | optional {inner : Struct} {v : JsValue} {rest : List String} {t : Struct} {w : JsValue} :
      v ≠ .undefined → PathTo inner v rest t w → PathTo (.optional inner) v rest t w
  | element {e : Struct} {v : JsValue} {p : String × JsValue} {rest : List String} {t : Struct}
      {w : JsValue} :
      p ∈ v.ownProps → PathTo e p.2 rest t w → PathTo (.array e) v (p.1 :: rest) t w

/-- A failure found at `path` below `base`, as the walk from `s` at `v` names it. -/
def Names (base : List String) (s : Struct) (v : JsValue) (f : Failure) : Prop :=
  ∃ rest t w, f.path = base ++ rest ∧ PathTo s v rest t w ∧ t.validator w = some f.message

/-- A failure of a schema's keys, as one key's walk names it. -/
def SchemaNames (base : List String) (schema : List (String × Struct)) (v : JsValue) (f : Failure) :
    Prop :=
  ∃ k s rest t w, (k, s) ∈ schema ∧ f.path = base ++ k :: rest ∧ PathTo s (v.member k) rest t w ∧
    t.validator w = some f.message

theorem Names.here {base : List String} {s : Struct} {v : JsValue} {m : String}
    (h : s.validator v = some m) : Names base s v ⟨base, m⟩ :=
  ⟨[], s, v, (List.append_nil base).symm, .here s v, h⟩

theorem orElse_eq_some {α : Type} {a : Option α} {f : Unit → Option α} {x : α} (h : a.orElse f = some x) :
    a = some x ∨ (a = none ∧ f () = some x) := by
  cases a <;> simp_all [Option.orElse]

theorem check_names : ∀ (s : Struct) (base : List String) (v : JsValue) {f : Failure},
    s.check base v = some f → Names base s v f := by
  intro s base v
  induction s, base, v using check.induct
    (motive_2 := fun schema base v => ∀ {f : Failure}, checkSchema schema base v = some f →
      SchemaNames base schema v f) with
  | case1 schema base v m hm | case3 schema base v m hm | case5 inner base v m hm | case8 e base v m hm =>
    intro f h
    simp only [check, hm, Option.some.injEq] at h
    exact h ▸ Names.here hm
  | case2 schema base v hm ih =>
    intro f h
    simp only [check, hm] at h
    rcases orElse_eq_some h with h | ⟨-, h⟩
    · obtain ⟨k, s, rest, t, w, hk, hp, hw, hv⟩ := ih h
      exact ⟨k :: rest, t, w, hp, .objectKey hk hw, hv⟩
    · obtain ⟨p, hp, rfl⟩ := Option.map_eq_some'.1 h
      have hnot : p.1 ∉ schema.map Prod.fst := fun hmem => by
        obtain ⟨q, hq, hq1⟩ := List.mem_map.1 hmem
        have := List.find?_some hp
        simp only [Bool.not_eq_true', List.any_eq_false] at this
        exact this q hq (by simp [hq1])
      exact ⟨[p.1], .never, p.2, rfl, .unknownKey (List.mem_of_find?_eq_some hp) hnot, rfl⟩
  | case4 schema base v hm ih =>
    intro f h
    simp only [check, hm] at h
    obtain ⟨k, s, rest, t, w, hk, hp, hw, hv⟩ := ih h
    exact ⟨k :: rest, t, w, hp, .typeKey hk hw, hv⟩
  | case6 inner base =>
    intro f h
    simp [check, validator] at h
  | case7 inner base v hm hne ih =>
    intro f h
    simp only [check, hm] at h
    obtain ⟨rest, t, w, hp, hw, hv⟩ := ih h
    exact ⟨rest, t, w, hp, .optional hne hw, hv⟩
  | case9 e base v hm ih =>
    intro f h
    simp only [check, hm] at h
    obtain ⟨p, hp, hc⟩ := List.exists_of_findSome?_eq_some h
    obtain ⟨rest, t, w, hpath, hw, hv⟩ := ih p hc
    exact ⟨p.1 :: rest, t, w, by simp [hpath], .element hp hw, hv⟩
  | case10 s base v h1 h2 h3 h4 =>
    intro f h
    cases s
    case object | type | optional | array => simp_all
    all_goals
      simp only [check] at h
      obtain ⟨m, hm, rfl⟩ := Option.map_eq_some'.1 h
      exact Names.here hm
  | case11 base v =>
    rename_i h
    simp [checkSchema] at h
  | case12 k s rest base v ih1 ih2 =>
    rename_i f h
    simp only [checkSchema] at h
    rcases orElse_eq_some h with h | ⟨-, h⟩
    · obtain ⟨rest', t, w, hp, hw, hv⟩ := ih1 h
      exact ⟨k, s, rest', t, w, List.mem_cons_self _ _, by simp [hp], hw, hv⟩
    · obtain ⟨k', s', rest', t, w, hk, hp, hw, hv⟩ := ih2 h
      exact ⟨k', s', rest', t, w, List.mem_cons_of_mem _ hk, hp, hw, hv⟩

theorem checkSchema_eq_none {schema : List (String × Struct)} {base : List String} {v : JsValue}
    (h : checkSchema schema base v = none) {k : String} {s : Struct} (hk : (k, s) ∈ schema) :
    s.check (base ++ [k]) (v.member k) = none := by
  induction schema with
  | nil => cases hk
  | cons p rest ih =>
    rw [show p = (p.1, p.2) from rfl, checkSchema_cons] at h
    rcases List.mem_cons.1 hk with rfl | hk
    · exact h.1
    · exact ih h.2 hk

/-- Every value superstruct's walk reaches from an accepted value passes its
struct's own validator. -/
theorem validator_of_pathTo {s : Struct} {v : JsValue} {path : List String} {t : Struct} {w : JsValue}
    (hp : s.PathTo v path t w) : ∀ {base : List String}, s.check base v = none → t.validator w = none := by
  induction hp with
  | here s v => exact validator_of_check
  | objectKey hk _ ih => exact fun h => ih (checkSchema_eq_none ((check_object _).1 h).2.1 hk)
  | typeKey hk _ ih => exact fun h => ih (checkSchema_eq_none ((check_type _).1 h).2 hk)
  | unknownKey hp hk => exact fun h => absurd (((check_object _).1 h).2.2 _ hp) hk
  | optional hne _ ih => exact fun h => ih (((check_optional _).1 h).resolve_left hne)
  | element hp _ ih =>
    intro base h
    obtain ⟨vs, rfl, hvs⟩ := (check_array _).1 h
    exact ih (hvs _ hp)

/-- superstruct accepts a value exactly when every value its walk reaches passes
its struct's own validator. -/
theorem check_eq_none_iff (s : Struct) (base : List String) (v : JsValue) :
    s.check base v = none ↔ ∀ path t w, s.PathTo v path t w → t.validator w = none := by
  refine ⟨fun h path t w hp => validator_of_pathTo hp h, fun h => ?_⟩
  cases hc : s.check base v with
  | none => rfl
  | some f =>
    obtain ⟨rest, t, w, -, hp, hw⟩ := check_names s base v hc
    simp [h rest t w hp] at hw

end Struct

section Accepted

variable (env : Env) (past : List Event)

theorem getAddress_calls_ne_nil (params : JsValue) (hv : validate params getAddressStruct = .ok params) :
    Event.calls ((getAddress params).run env past).events ≠ [] := by
  have hk := get_of_isObject (isObject_of_validate (.inr rfl) hv) "keyId"
  simp [getAddress, hv, hk, getAddressTry, Event.calls]

theorem signTransaction_calls_ne_nil (origin : String) (params : JsValue)
    (hv : validate params signTransactionStruct = .ok params) :
    Event.calls ((signTransaction origin params).run env past).events ≠ [] := by
  have ho := isObject_of_validate (.inl rfl) hv
  simp [signTransaction, hv, get_of_isObject ho, signTransactionTry, Event.calls]

end Accepted

/-- A `getAddress` or `signTransaction` request makes a collaborator call exactly
when every value superstruct's walk reaches in its params passes the validator
of the struct the method's schema puts there; otherwise it throws before any
call. -/
theorem params_reach_collaborators (origin : String) (request : Request) (env : Env) (past : List Event)
    {s : Struct} (hs : request.method = "getAddress" ∧ s = getAddressStruct ∨
      request.method = "signTransaction" ∧ s = signTransactionStruct) :
    Event.calls ((onRpcRequest origin request).run env past).events ≠ [] ↔
      ∀ path t w, s.PathTo request.params path t w → t.validator w = none := by
  rw [← Struct.check_eq_none_iff s []]
  unfold onRpcRequest
  cases hv : validate request.params s with
  | error f =>
    have hc : s.check [] request.params ≠ none := fun h => by
      obtain ⟨w, hw⟩ := validate_ok_iff.2 h
      simp [hw] at hv
    simp only [hc, iff_false, not_not]
    rcases hs with ⟨hm, rfl⟩ | ⟨hm, rfl⟩ <;> simp [hm, getAddress, signTransaction, hv, Event.calls]
  | ok w =>
    obtain rfl := validate_eq_ok hv
    simp only [validate_ok_iff.1 ⟨_, hv⟩, iff_true]
    rcases hs with ⟨hm, rfl⟩ | ⟨hm, rfl⟩ <;> simp only [hm]
    · exact getAddress_calls_ne_nil env past _ hv
    · exact signTransaction_calls_ne_nil env past origin _ hv

def nullNonceParams : JsValue :=
  .object [("transaction", .object [("call", .object []), ("chain_id", .number (.ofNat 0)),
    ("max_priority_fee_bips", .number (.ofNat 0)), ("max_fee", .number (.ofNat 0)), ("nonce", .null)]),
    ("keyId", .number (.ofNat 0))]

/-- The null nonce is reached by the walk and rejected, so no call is made. -/
theorem params_reach_collaborators_of_null_nonce :
    (Request.method ⟨"signTransaction", nullNonceParams⟩ = "getAddress" ∧ signTransactionStruct = getAddressStruct ∨
      Request.method ⟨"signTransaction", nullNonceParams⟩ = "signTransaction" ∧
        signTransactionStruct = signTransactionStruct) ∧
      (Event.calls ((onRpcRequest "localhost" ⟨"signTransaction", nullNonceParams⟩).run
          (fun _ _ => .error .undefined) []).events ≠ [] ↔
        ∀ path t w, signTransactionStruct.PathTo nullNonceParams path t w → t.validator w = none) :=
  have hs : Request.method ⟨"signTransaction", nullNonceParams⟩ = "getAddress" ∧
      signTransactionStruct = getAddressStruct ∨
    Request.method ⟨"signTransaction", nullNonceParams⟩ = "signTransaction" ∧
      signTransactionStruct = signTransactionStruct := .inr ⟨rfl, rfl⟩
  ⟨hs, params_reach_collaborators "localhost" ⟨"signTransaction", nullNonceParams⟩ _ [] hs⟩

end SovereignSnap
