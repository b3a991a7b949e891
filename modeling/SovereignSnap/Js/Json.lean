import SovereignSnap.Js.Value

/-! # `JSON.stringify`

`SerializeJSONProperty` of ECMA-262 (25.5.2.2) with no replacer and no indent,
and the JSON transport `JSON.parse(JSON.stringify(v))`.
-/

namespace SovereignSnap.Js

def hexDigit (d : Nat) : Char := if d < 10 then Char.ofNat (48 + d) else Char.ofNat (87 + d)

def hex4 (n : Nat) : List Char := [n / 4096 % 16, n / 256 % 16, n / 16 % 16, n % 16].map hexDigit

/-- `QuoteJSONString`'s escape of one code unit. -/
def escapeChar (c : Char) : List Char :=
  if c = '\x08' then ['\\', 'b']
  else if c = '\t' then ['\\', 't']
  else if c = '\n' then ['\\', 'n']
  else if c = '\x0c' then ['\\', 'f']
  else if c = '\r' then ['\\', 'r']
  else if c = '"' then ['\\', '"']
  else if c = '\\' then ['\\', '\\']
  else if c.toNat < 0x20 then '\\' :: 'u' :: hex4 c.toNat
  else [c]

/-- `QuoteJSONString(value)`. -/
def quote (s : String) : List Char := '"' :: s.toList.flatMap escapeChar ++ ['"']

namespace JsValue

mutual
/-- `SerializeJSONProperty`; `none` where `JSON.stringify` gives `undefined`. -/
def serialize : JsValue → Option (List Char)
  | undefined => none
  | null => some "null".toList
  | bool b => some (if b then "true" else "false").toList
  | number n => some (if n.isFinite then n.toString.toList else "null".toList)
  | string s => some (quote s)
  | array vs => some ('[' :: [','].intercalate (serializeElements vs) ++ [']'])
  | object props => some ('{' :: [','].intercalate (serializeMembers props) ++ ['}'])
  | bytes bs => some ('{' :: [','].intercalate ((List.range bs.length).zip bs |>.map fun p =>
      quote (indexKey p.1) ++ ':' :: (JsNumber.ofNat p.2.toNat).toString.toList) ++ ['}'])
  | error _ => some "{}".toList

/-- `SerializeJSONArray`'s elements: `undefined` prints as `null`. -/
def serializeElements : List JsValue → List (List Char)
  | [] => []
  | v :: vs => (serialize v).getD "null".toList :: serializeElements vs

/-- `SerializeJSONObject`'s members: `undefined` members are left out. -/
def serializeMembers : List (String × JsValue) → List (List Char)
  | [] => []
  | (k, v) :: props =>
      match serialize v with
      | some s => (quote k ++ ':' :: s) :: serializeMembers props
      | none => serializeMembers props
end

/-- `JSON.stringify(value)`. -/
def stringify (v : JsValue) : Option String := (serialize v).map String.mk

/-- `'...' + JSON.stringify(value)`: `undefined` concatenates as its name. -/
def stringifyText (v : JsValue) : String := (v.stringify).getD "undefined"

end JsValue

example : JsValue.stringify (.object [("path", .array [.string "m", .string "0'"]),
    ("compressed", .bool true)]) = some "\x7b\"path\":[\"m\",\"0'\"],\"compressed\":true\x7d" := by
  decide

/-! ## JSON transport -/

namespace JsValue

mutual
/-- `JSON.parse(JSON.stringify(value))`, what a request's parameters become on
their way to the snap: `none` where `JSON.stringify` gives `undefined`. A finite
number comes back as itself, but `-0` as `0`; `NaN` and the infinities become
`null`; a `Uint8Array` becomes an object of its bytes and an `Error` an empty
object. -/
def transport : JsValue → Option JsValue
  | undefined => none
  | null => some null
  | bool b => some (bool b)
  | number n => some (match n with
    | .zero _ => number (.zero false)
    | .nan | .infinity _ => null
    | n => number n)
  | string s => some (string s)
  | array vs => some (array (transportElements vs))
  | object props => some (object (transportMembers props))
  | bytes bs => some (object ((List.range bs.length).zip bs |>.map fun p =>
      (indexKey p.1, number (JsNumber.ofNat p.2.toNat))))
  | error _ => some (object [])

/-- An array's elements after transport: `undefined` comes back as `null`. -/
def transportElements : List JsValue → List JsValue
  | [] => []
  | v :: vs => (transport v).getD null :: transportElements vs

/-- An object's members after transport: `undefined` members are gone. -/
def transportMembers : List (String × JsValue) → List (String × JsValue)
  | [] => []
  | (k, v) :: props =>
    match transport v with
    | some t => (k, t) :: transportMembers props
    | none => transportMembers props
end

theorem serializeMembers_bytes (l : List (Nat × UInt8)) :
    serializeMembers (l.map fun p => (indexKey p.1, number (JsNumber.ofNat p.2.toNat))) =
      l.map fun p => quote (indexKey p.1) ++ ':' :: (JsNumber.ofNat p.2.toNat).toString.toList := by
  induction l with
  | nil => rfl
  | cons p l ih =>
    have hfin : (JsNumber.ofNat p.2.toNat).isFinite := by
      unfold JsNumber.ofNat
      split <;> rfl
    simp [serializeMembers, serialize, hfin, ih]

mutual
theorem serialize_transport : ∀ v : JsValue, (transport v).bind serialize = serialize v
  | undefined | null | bool _ | string _ | error _ => rfl
  | number n => by cases n <;> rfl
  | array vs => by simp [transport, serialize, serializeElements_transport vs]
  | object props => by simp [transport, serialize, serializeMembers_transport props]
  | bytes bs => by simp [transport, serialize, serializeMembers_bytes]

theorem serializeElements_transport :
    ∀ vs : List JsValue, serializeElements (transportElements vs) = serializeElements vs
  | [] => rfl
  | v :: vs => by
    have hv := serialize_transport v
    cases h : transport v with
    | none =>
      have hs : serialize v = none := by simpa [h] using hv.symm
      simp [transportElements, serializeElements, h, hs, serialize, serializeElements_transport vs]
    | some t =>
      have hs : serialize t = serialize v := by simpa [h] using hv
      simp [transportElements, serializeElements, h, hs, serializeElements_transport vs]

theorem serializeMembers_transport :
    ∀ props : List (String × JsValue), serializeMembers (transportMembers props) = serializeMembers props
  | [] => rfl
  | (k, v) :: props => by
    have hv := serialize_transport v
    cases h : transport v with
    | none =>
      have hs : serialize v = none := by simpa [h] using hv.symm
      simp [transportMembers, serializeMembers, h, hs, serializeMembers_transport props]
    | some t =>
      have hs : serialize t = serialize v := by simpa [h] using hv
      simp [transportMembers, serializeMembers, h, hs, serializeMembers_transport props]
end

theorem mem_keys_transportMembers {props : List (String × JsValue)} {key : String}
    (h : key ∈ (transportMembers props).map Prod.fst) : key ∈ props.map Prod.fst := by
  induction props with
  | nil => exact h
  | cons p props ih =>
    obtain ⟨k, v⟩ := p
    simp only [transportMembers] at h
    split at h
    · rcases List.mem_cons.1 h with rfl | h
      · exact List.mem_cons_self _ _
      · exact List.mem_cons_of_mem _ (ih h)
    · exact List.mem_cons_of_mem _ (ih h)

theorem member_transportMembers {props : List (String × JsValue)} (h : (props.map Prod.fst).Nodup)
    (key : String) : (object (transportMembers props)).member key =
      (((object props).member key).transport).getD undefined := by
  simp only [member]
  induction props with
  | nil => rfl
  | cons p props ih =>
    obtain ⟨k, v⟩ := p
    simp only [List.map_cons, List.nodup_cons] at h
    simp only [transportMembers, lookup]
    by_cases hk : k = key
    · subst hk
      have hnone : lookup k (transportMembers props) = none :=
        lookup_eq_none _ fun q hq hq1 => h.1 (hq1 ▸ mem_keys_transportMembers (List.mem_map_of_mem _ hq))
      cases ht : transport v <;> simp [lookup, hnone, ht]
    · split <;> simp [lookup, hk, ih h.2]

end JsValue

end SovereignSnap.Js
