import SovereignSnap.Js.Number

/-! # JavaScript values

The values of requests, of the snap's objects and of its collaborators' answers,
with the runtime's conversions on them; a conversion that can throw returns
`Except JsValue`.
-/

namespace SovereignSnap.Js

/-- An `Error` instance: its `name`, the numeric `code` of the JSON-RPC error
classes, and its `message`. -/
structure JsError where
  name : String
  code : Option Int
  message : String
deriving DecidableEq

inductive JsValue where
  | undefined
  | null
  | bool (b : Bool)
  | number (n : JsNumber)
  | string (s : String)
  | array (elems : List JsValue)
  | object (props : List (String × JsValue))
  | bytes (data : List UInt8)
  | error (e : JsError)

namespace JsValue

mutual
/-- Structural equality of values, written out constructor by constructor. -/
def decEq : (a b : JsValue) → Decidable (a = b)
  | undefined, b => match b with
    | undefined => isTrue rfl
    | null | bool _ | number _ | string _ | array _ | object _ | bytes _ | error _ =>
        isFalse (by intro e; cases e)
  | null, b => match b with
    | null => isTrue rfl
    | undefined | bool _ | number _ | string _ | array _ | object _ | bytes _ | error _ =>
        isFalse (by intro e; cases e)
  | bool x, b => match b with
    | bool y => if h : x = y then isTrue (h ▸ rfl) else isFalse (by intro e; cases e; exact h rfl)
    | undefined | null | number _ | string _ | array _ | object _ | bytes _ | error _ =>
        isFalse (by intro e; cases e)
  | number x, b => match b with
    | number y => if h : x = y then isTrue (h ▸ rfl) else isFalse (by intro e; cases e; exact h rfl)
    | undefined | null | bool _ | string _ | array _ | object _ | bytes _ | error _ =>
        isFalse (by intro e; cases e)
  | string x, b => match b with
    | string y => if h : x = y then isTrue (h ▸ rfl) else isFalse (by intro e; cases e; exact h rfl)
    | undefined | null | bool _ | number _ | array _ | object _ | bytes _ | error _ =>
        isFalse (by intro e; cases e)
  | array xs, b => match b with
    | array ys => match decEqList xs ys with
      | isTrue h => isTrue (h ▸ rfl)
      | isFalse h => isFalse (by intro e; cases e; exact h rfl)
    | undefined | null | bool _ | number _ | string _ | object _ | bytes _ | error _ =>
        isFalse (by intro e; cases e)
  | object xs, b => match b with
    | object ys => match decEqProps xs ys with
      | isTrue h => isTrue (h ▸ rfl)
      | isFalse h => isFalse (by intro e; cases e; exact h rfl)
    | undefined | null | bool _ | number _ | string _ | array _ | bytes _ | error _ =>
        isFalse (by intro e; cases e)
  | bytes x, b => match b with
    | bytes y => if h : x = y then isTrue (h ▸ rfl) else isFalse (by intro e; cases e; exact h rfl)
    | undefined | null | bool _ | number _ | string _ | array _ | object _ | error _ =>
        isFalse (by intro e; cases e)
  | error x, b => match b with
    | error y => if h : x = y then isTrue (h ▸ rfl) else isFalse (by intro e; cases e; exact h rfl)
    | undefined | null | bool _ | number _ | string _ | array _ | object _ | bytes _ =>
        isFalse (by intro e; cases e)

def decEqList : (xs ys : List JsValue) → Decidable (xs = ys)
  | [], [] => isTrue rfl
  | [], _ :: _ => isFalse (by intro e; cases e)
  | _ :: _, [] => isFalse (by intro e; cases e)
  | x :: xs, y :: ys => match decEq x y, decEqList xs ys with
    | isTrue h, isTrue h' => isTrue (h ▸ h' ▸ rfl)
    | isFalse h, _ => isFalse (by intro e; cases e; exact h rfl)
    | _, isFalse h => isFalse (by intro e; cases e; exact h rfl)

def decEqProps : (xs ys : List (String × JsValue)) → Decidable (xs = ys)
  | [], [] => isTrue rfl
  | [], _ :: _ => isFalse (by intro e; cases e)
  | _ :: _, [] => isFalse (by intro e; cases e)
  | (k, x) :: xs, (l, y) :: ys =>
    if hk : k = l then
      match decEq x y, decEqProps xs ys with
      | isTrue h, isTrue h' => isTrue (hk ▸ h ▸ h' ▸ rfl)
      | isFalse h, _ => isFalse (by intro e; cases e; exact h rfl)
      | _, isFalse h => isFalse (by intro e; cases e; exact h rfl)
    else isFalse (by intro e; cases e; exact hk rfl)
end

instance : DecidableEq JsValue := decEq

def typeError (message : String) : JsValue := error ⟨"TypeError", none, message⟩

/-- `ToBoolean`. -/
def truthy : JsValue → Bool
  | undefined | null => false
  | bool b => b
  | number n => n.truthy
  | string s => !s.isEmpty
  | _ => true

/-- `typeof value === 'object' && value != null`. -/
def isObject : JsValue → Bool
  | array _ | object _ | bytes _ | error _ => true
  | _ => false

/-- `Error.prototype.toString`. -/
def errorString (e : JsError) : String :=
  if e.name.isEmpty then e.message
  else if e.message.isEmpty then e.name
  else e.name ++ ": " ++ e.message

def indexKey (i : Nat) : String := (JsNumber.ofNat i).toString

def byteValue (b : UInt8) : JsValue := number (JsNumber.ofNat b.toNat)

mutual
/-- `ToString(value)`, which template literals and `+` with a string apply. -/
def toStr : JsValue → String
  | undefined => "undefined"
  | null => "null"
  | bool b => if b then "true" else "false"
  | number n => n.toString
  | string s => s
  | array vs => join "," vs
  | object _ => "[object Object]"
  | bytes bs => String.intercalate "," (bs.map fun b => (JsNumber.ofNat b.toNat).toString)
  | error e => errorString e

/-- `Array.prototype.join(sep)`: `undefined` and `null` elements print empty. -/
def join (sep : String) : List JsValue → String
  | [] => ""
  | v :: vs =>
      let first := match v with
        | undefined | null => ""
        | v => toStr v
      match vs with
      | [] => first
      | _ => first ++ sep ++ join sep vs
end

/-- `value.toString()`: a `TypeError` on `undefined` and `null`. -/
def callToString : JsValue → Except JsValue String
  | undefined => .error (typeError "Cannot read properties of undefined (reading 'toString')")
  | null => .error (typeError "Cannot read properties of null (reading 'toString')")
  | v => .ok v.toStr

def lookup (key : String) : List (String × JsValue) → Option JsValue
  | [] => none
  | (k, v) :: props => if k = key then some v else lookup key props

theorem lookup_eq_none {key : String} :
    ∀ (props : List (String × JsValue)), (∀ p ∈ props, p.1 ≠ key) → lookup key props = none
  | [], _ => rfl
  | (k, v) :: props, h => by
    simp only [lookup, if_neg (h _ (List.mem_cons_self _ _)),
      lookup_eq_none props fun p hp => h p (List.mem_cons_of_mem _ hp)]

theorem lookup_append (key : String) :
    ∀ (l l' : List (String × JsValue)), lookup key (l ++ l') = (lookup key l).or (lookup key l')
  | [], _ => rfl
  | (k, v) :: l, l' => by
    simp only [List.cons_append, lookup]
    split
    · rfl
    · exact lookup_append key l l'

theorem lookup_filter_of_ne {key c : String} (hkc : key ≠ c) :
    ∀ l : List (String × JsValue), lookup key (l.filter (·.1 ≠ c)) = lookup key l
  | [] => rfl
  | (k, v) :: l => by
    have ih := lookup_filter_of_ne hkc l
    simp only [ne_eq, decide_not] at ih
    by_cases hk : k = c
    · subst hk
      simp [lookup, Ne.symm hkc, ih]
    · simp [lookup, hk, ih]

/-- Indexed properties of a list, as arrays, typed arrays and strings expose them. -/
def indexed (vs : List JsValue) : List (String × JsValue) :=
  (List.range vs.length).zip vs |>.map fun p => (indexKey p.1, p.2)

@[simp] theorem map_snd_indexed (vs : List JsValue) : (indexed vs).map Prod.snd = vs := by
  simp [indexed, Function.comp_def, List.map_snd_zip]

/-- Own enumerable properties in property order (`Object.keys` with values). -/
def ownProps : JsValue → List (String × JsValue)
  | object props => props
  | array vs => indexed vs
  | bytes bs => indexed (bs.map byteValue)
  | string s => indexed (s.toList.map fun c => string (String.singleton c))
  | _ => []

/-- `value[key]` on a value that is not `undefined` or `null`. -/
def member (v : JsValue) (key : String) : JsValue :=
  match v with
  | object props => (lookup key props).getD undefined
  | array vs => if key = "length" then number (JsNumber.ofNat vs.length)
      else (lookup key (indexed vs)).getD undefined
  | bytes bs => if key = "length" then number (JsNumber.ofNat bs.length)
      else (lookup key (indexed (bs.map byteValue))).getD undefined
  | string s => if key = "length" then number (JsNumber.ofNat s.length)
      else (lookup key v.ownProps).getD undefined
  | _ => undefined

/-- `value.key`: a `TypeError` on `undefined` and `null`. -/
def get (v : JsValue) (key : String) : Except JsValue JsValue :=
  match v with
  | undefined => .error (typeError ("Cannot read properties of undefined (reading '" ++ key ++ "')"))
  | null => .error (typeError ("Cannot read properties of null (reading '" ++ key ++ "')"))
  | v => .ok (v.member key)

theorem get_of_isObject {v : JsValue} (h : v.isObject) (key : String) :
    v.get key = .ok (v.member key) := by
  cases v <;> simp_all [isObject, get]

/-- Defining `key` on an object under construction: an existing key keeps its
place and takes the new value, a new key goes last. -/
def setProp (props : List (String × JsValue)) (key : String) (v : JsValue) :
    List (String × JsValue) :=
  if props.any (·.1 == key) then props.map fun p => if p.1 = key then (key, v) else p
  else props ++ [(key, v)]

/-- `{ ...props, ...source }`: the source's own properties defined in order. -/
def spread (props : List (String × JsValue)) (source : JsValue) : List (String × JsValue) :=
  source.ownProps.foldl (fun acc p => setProp acc p.1 p.2) props

theorem setProp_of_not_mem {props : List (String × JsValue)} {key : String} (v : JsValue)
    (h : key ∉ props.map Prod.fst) : setProp props key v = props ++ [(key, v)] := by
  rw [setProp, if_neg]
  simpa using fun x hm => h (List.mem_map.2 ⟨(key, x), hm, rfl⟩)

theorem foldl_setProp {acc props : List (String × JsValue)}
    (h : (acc.map Prod.fst ++ props.map Prod.fst).Nodup) :
    props.foldl (fun acc p => setProp acc p.1 p.2) acc = acc ++ props := by
  induction props generalizing acc with
  | nil => simp
  | cons p props ih =>
      have hp : p.1 ∉ acc.map Prod.fst := fun hm =>
        (List.nodup_append.1 h).2.2 hm (by simp)
      rw [List.foldl_cons, setProp_of_not_mem _ hp, ih (by simpa using h), List.append_assoc]
      rfl

theorem spread_of_nodup {props : List (String × JsValue)} {source : JsValue}
    (h : (props.map Prod.fst ++ source.ownProps.map Prod.fst).Nodup) :
    spread props source = props ++ source.ownProps :=
  foldl_setProp h

section Keys

variable {props : List (String × JsValue)} {key k : String} {v : JsValue}

theorem mem_keys_setProp (h : key ∈ (setProp props k v).map Prod.fst) :
    key ∈ props.map Prod.fst ∨ key = k := by
  unfold setProp at h
  split at h
  · simp only [List.map_map, List.mem_map, Function.comp_def] at h
    obtain ⟨p, hp, rfl⟩ := h
    split
    · exact .inr rfl
    · exact .inl (List.mem_map_of_mem _ hp)
  · simpa using h

theorem lookup_setProp_of_ne (h : k ≠ key) : lookup key (setProp props k v) = lookup key props := by
  have hmap : ∀ l : List (String × JsValue),
      lookup key (l.map fun p => if p.1 = k then (k, v) else p) = lookup key l := by
    intro l
    induction l with
    | nil => rfl
    | cons p l ih =>
      obtain ⟨k', v'⟩ := p
      simp only [List.map_cons]
      by_cases hk : k' = k
      · subst hk
        rw [if_pos rfl]
        simp [lookup, h, ih]
      · rw [if_neg hk]
        simp [lookup, ih]
  unfold setProp
  split
  · exact hmap props
  · simp [lookup_append, lookup, h]

theorem mem_keys_spread {source : JsValue} (h : key ∈ (spread props source).map Prod.fst) :
    key ∈ props.map Prod.fst ∨ key ∈ source.ownProps.map Prod.fst := by
  unfold spread at h
  generalize source.ownProps = ps at h ⊢
  induction ps generalizing props with
  | nil => exact .inl h
  | cons p ps ih =>
    rcases ih h with h | h
    · rcases mem_keys_setProp h with h | h
      · exact .inl h
      · exact .inr (by simp [h])
    · exact .inr (List.mem_cons_of_mem _ h)

theorem lookup_spread_of_not_mem {source : JsValue} (h : key ∉ source.ownProps.map Prod.fst) :
    lookup key (spread props source) = lookup key props := by
  unfold spread
  generalize source.ownProps = ps at h ⊢
  induction ps generalizing props with
  | nil => rfl
  | cons p ps ih =>
    simp only [List.map_cons, List.mem_cons, not_or] at h
    rw [List.foldl_cons, ih h.2, lookup_setProp_of_ne (Ne.symm h.1)]

end Keys

/-- `Array.from(value)`: iterables give their elements, other objects are read
as array-likes through a numeric `length`. -/
def arrayFrom : JsValue → Except JsValue JsValue
  | undefined => .error (typeError "undefined is not iterable (cannot read property Symbol(Symbol.iterator))")
  | null => .error (typeError "object null is not iterable (cannot read property Symbol(Symbol.iterator))")
  | array vs => .ok (array vs)
  | bytes bs => .ok (array (bs.map byteValue))
  | string s => .ok (array (s.toList.map fun c => string (String.singleton c)))
  | object props =>
      match lookup "length" props with
      | some (number n) =>
          .ok (array ((List.range (n.asNat?.getD 0)).map fun i =>
            (lookup (indexKey i) props).getD undefined))
      | _ => .ok (array [])
  | _ => .ok (array [])

end JsValue

/-- Results compare by value, so that an outcome can be checked by `decide`. -/
instance instDecidableEqExcept {ε α : Type} [DecidableEq ε] [DecidableEq α] :
    DecidableEq (Except ε α)
  | .ok a, .ok b => decidable_of_iff (a = b) ⟨congrArg _, Except.ok.inj⟩
  | .error e, .error e' => decidable_of_iff (e = e') ⟨congrArg _, Except.error.inj⟩
  | .ok _, .error _ => isFalse nofun
  | .error _, .ok _ => isFalse nofun

section ExceptLemmas

variable {ε α β : Type}

@[simp] theorem except_ok_bind (a : α) (f : α → Except ε β) : (Except.ok a >>= f) = f a := rfl

@[simp] theorem except_error_bind (e : ε) (f : α → Except ε β) :
    (Except.error e >>= f : Except ε β) = .error e := rfl

@[simp] theorem except_map_ok (f : α → β) (a : α) : (f <$> Except.ok a : Except ε β) = .ok (f a) := rfl

@[simp] theorem except_map_error (f : α → β) (e : ε) :
    (f <$> Except.error e : Except ε β) = .error e := rfl

end ExceptLemmas

end SovereignSnap.Js
