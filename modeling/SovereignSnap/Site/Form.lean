import SovereignSnap.Js.Text
import SovereignSnap.Validation

/-! # The Sovereign form

The component's state, the `onChange` handlers, `parseGasLimit` and the Sign
button's `params`, and what the inputs can leave in each field.
-/

namespace SovereignSnap

open Js JsValue

/-! ## State and inputs -/

/-- `SovereignState`, with the `address` the Get Address completion adds. `pk`
is left out: no code reads or writes it. -/
structure SovereignState where
  keyId : Option JsNumber
  callMessage : String
  chainId : Option JsNumber
  maxPriorityFee : Option JsNumber
  maxFee : Option JsNumber
  gasLimit : Option (List JsNumber)
  nonce : JsNumber
  tx : JsValue
  sequencer : Option String
  status : JsValue
  address : JsValue

/-- The `initialState` of the component. -/
def initialState : SovereignState where
  keyId := some (.ofNat 0)
  chainId := some (.ofNat 0)
  maxPriorityFee := some (.ofNat 0)
  maxFee := some (.ofNat 3000)
  gasLimit := none
  nonce := .ofNat 0
  callMessage := "\x7b\"bank\":\x7b\"CreateToken\":\x7b\"salt\":11,\"token_name\":\"sov-test-token\",\"initial_balance\":1000000,\"minter_address\":\"sov15vspj48hpttzyvxu8kzq5klhvaczcpyxn6z6k0hwpwtzs4a6wkvqwr57gc\",\"authorized_minters\":[\"sov1l6n2cku82yfqld30lanm2nfw43n2auc8clw7r5u5m6s7p8jrm4zqrr8r94\",\"sov15vspj48hpttzyvxu8kzq5klhvaczcpyxn6z6k0hwpwtzs4a6wkvqwr57gc\"]\x7d\x7d\x7d"
  sequencer := some "http://localhost:12346/sequencer/"
  status := .string ""
  tx := .undefined
  address := .undefined

/-- `parseGasLimit(gasLimitString)`: the comma-separated items, trimmed, the empty
ones dropped, each read by `parseInt`, and those that are `NaN` or negative
dropped; a blank string gives `undefined`. -/
def parseGasLimit (gasLimitString : String) : Option (List JsNumber) :=
  if trim gasLimitString = "" then none
  else some ((((split gasLimitString ',').map trim).filter (· != "")).map parseInt |>.filter
    fun item => !item.isNaN && item.isNonNegative)

/-- The Parsed Gas Limit text, `state.gasLimit ? state.gasLimit.join(", ") : 'Not Set'`:
an array is truthy even when empty. -/
def parsedGasLimitText (state : SovereignState) : String :=
  match state.gasLimit with
  | some xs => join ", " (xs.map .number)
  | none => "Not Set"

/-- The value a `type="number"` input reports: one HTML's value sanitization
leaves as it is, so empty or a valid floating-point number of a finite double. -/
structure NumberInputValue where
  value : String
  valid : sanitizeNumber value = value

/-- What a number input reports once the user has typed `s`. -/
def NumberInputValue.ofTyped (s : String) : NumberInputValue := ⟨sanitizeNumber s, sanitizeNumber_idem s⟩

theorem NumberInputValue.valid_of_ne (v : NumberInputValue) (h : v.value ≠ "") :
    validFloatingPointNumber v.value ∧ finiteNumeral v.value := by
  have hv := v.valid
  unfold sanitizeNumber at hv
  split at hv
  · rename_i hc
    simpa using hc
  · exact absurd hv.symm h

/-- The test `/^[0-9\b]+$/u.test(value)` of the number inputs' handlers. -/
def digitsRegexTest (value : String) : Bool :=
  value != "" && value.toList.all fun c => c.isDigit || c = '\x08'

/-- The `onChange` handler of the nonce, chain id and fee inputs, for the field
`set` writes: an empty or digits-only value is stored as `parseInt(value, 10)`. -/
def onNumberChange (set : SovereignState → JsNumber → SovereignState) (state : SovereignState)
    (value : String) : SovereignState :=
  if value = "" || digitsRegexTest value then set state (parseInt value) else state

def onNonceChange : SovereignState → String → SovereignState :=
  onNumberChange fun state n => { state with nonce := n }

def onChainIdChange : SovereignState → String → SovereignState :=
  onNumberChange fun state n => { state with chainId := some n }

def onMaxPriorityFeeChange : SovereignState → String → SovereignState :=
  onNumberChange fun state n => { state with maxPriorityFee := some n }

def onMaxFeeChange : SovereignState → String → SovereignState :=
  onNumberChange fun state n => { state with maxFee := some n }

/-- The key id's handler: as the others, but it returns early on an empty value. -/
def onKeyIdChange (state : SovereignState) (value : String) : SovereignState :=
  if value = "" then state
  else if value = "" || digitsRegexTest value then { state with keyId := some (parseInt value) }
  else state

def onGasLimitChange (state : SovereignState) (value : String) : SovereignState :=
  { state with gasLimit := parseGasLimit value }

def onCallMessageChange (state : SovereignState) (value : String) : SovereignState :=
  { state with callMessage := value }

def onSequencerChange (state : SovereignState) (value : String) : SovereignState :=
  { state with sequencer := some value }

/-- An edit of one of the form's inputs, with the value the input reports. -/
inductive Input where
  | keyId (value : NumberInputValue)
  | nonce (value : NumberInputValue)
  | chainId (value : NumberInputValue)
  | maxPriorityFee (value : NumberInputValue)
  | maxFee (value : NumberInputValue)
  | gasLimit (value : String)
  | callMessage (value : String)
  | sequencer (value : String)

/-- The `onChange` handler an edit runs. -/
def Input.apply : Input → SovereignState → SovereignState
  | .keyId v, state => onKeyIdChange state v.value
  | .nonce v, state => onNonceChange state v.value
  | .chainId v, state => onChainIdChange state v.value
  | .maxPriorityFee v, state => onMaxPriorityFeeChange state v.value
  | .maxFee v, state => onMaxFeeChange state v.value
  | .gasLimit v, state => onGasLimitChange state v
  | .callMessage v, state => onCallMessageChange state v
  | .sequencer v, state => onSequencerChange state v

def inputRun (state : SovereignState) (inputs : List Input) : SovereignState :=
  inputs.foldl (fun state i => i.apply state) state

/-! ## What the handlers store -/

theorem digits_of_regexTest (v : NumberInputValue) (h : digitsRegexTest v.value) :
    v.value.toList ≠ [] ∧ ∀ c ∈ v.value.toList, c.isDigit := by
  simp only [digitsRegexTest, Bool.and_eq_true, bne_iff_ne, ne_eq] at h
  have hb : '\x08' ∉ v.value.toList := backspace_not_mem_of_valid (v.valid_of_ne h.1).1
  refine ⟨fun h0 => h.1 (String.ext h0), fun c hc => ?_⟩
  have := List.all_eq_true.1 h.2 c hc
  simp only [Bool.or_eq_true, decide_eq_true_eq] at this
  exact this.resolve_right fun hc' => hb (hc' ▸ hc)

theorem isNatural_parseInt_of_regexTest (v : NumberInputValue) (h : digitsRegexTest v.value) :
    (parseInt v.value).IsNatural := by
  obtain ⟨hne, hd⟩ := digits_of_regexTest v h
  have hlt := (v.valid_of_ne fun h0 => hne (by rw [h0]; rfl)).2
  rw [show v.value = ⟨v.value.toList⟩ from rfl, finiteNumeral_digits hd, decide_eq_true_eq] at hlt
  rw [show v.value = ⟨v.value.toList⟩ from rfl, parseInt_digits hne hd]
  split
  · exact ⟨0, rfl⟩
  · exact JsNumber.isNatural_ofNatRounded hlt

theorem onNumberChange_stores (v : NumberInputValue) (h : (v.value = "" || digitsRegexTest v.value)) :
    (parseInt v.value).IsNatural ∨ parseInt v.value = .nan := by
  by_cases h0 : v.value = ""
  · exact .inr (by rw [h0]; rfl)
  · simp only [h0, decide_False, Bool.false_or] at h
    exact .inl (isNatural_parseInt_of_regexTest v h)

/-- What follows for the whole family of number handlers: a property of the
state that writing a natural or `NaN` to the field keeps holds after the edit. -/
theorem onNumberChange_of {P : SovereignState → Prop} {set : SovereignState → JsNumber → SovereignState}
    {state : SovereignState} (v : NumberInputValue) (hkeep : P state)
    (hset : ∀ x, x.IsNatural ∨ x = .nan → P (set state x)) : P (onNumberChange set state v.value) := by
  unfold onNumberChange
  split
  · exact hset _ (onNumberChange_stores v ‹_›)
  · exact hkeep

theorem parseGasLimit_isCount {value : String} {xs : List JsNumber}
    (h : parseGasLimit value = some xs) : ∀ x ∈ xs, x.IsCount := by
  unfold parseGasLimit at h
  split at h
  · cases h
  obtain rfl := Option.some.inj h
  intro x hx
  simp only [List.mem_filter, List.mem_map, Bool.and_eq_true, Bool.not_eq_true'] at hx
  obtain ⟨⟨item, -, rfl⟩, hnan, hnn⟩ := hx
  exact isCount_parseInt hnan hnn

/-- What an input can leave in each number field. The number inputs hold
naturals, as they report only numerals of finite doubles; the key id, whose
handler returns early on an empty value, never holds `NaN`, and the other four
may. The gas limit, a text input, holds counts, `+∞` among them. -/
structure FieldsRead (state : SovereignState) : Prop where
  keyId : ∃ x, state.keyId = some x ∧ x.IsNatural
  nonce : state.nonce.IsNatural ∨ state.nonce = .nan
  chainId : ∃ x, state.chainId = some x ∧ (x.IsNatural ∨ x = .nan)
  maxPriorityFee : ∃ x, state.maxPriorityFee = some x ∧ (x.IsNatural ∨ x = .nan)
  maxFee : ∃ x, state.maxFee = some x ∧ (x.IsNatural ∨ x = .nan)
  gasLimit : ∀ xs, state.gasLimit = some xs → ∀ x ∈ xs, x.IsCount

theorem isNatural_ofNat (n : Nat) : (JsNumber.ofNat n).IsNatural := ⟨n, JsNumber.asNat?_ofNat n⟩

theorem fieldsRead_initialState : FieldsRead initialState where
  keyId := ⟨_, rfl, isNatural_ofNat 0⟩
  nonce := .inl (isNatural_ofNat 0)
  chainId := ⟨_, rfl, .inl (isNatural_ofNat 0)⟩
  maxPriorityFee := ⟨_, rfl, .inl (isNatural_ofNat 0)⟩
  maxFee := ⟨_, rfl, .inl (isNatural_ofNat 3000)⟩
  gasLimit := fun _ h => by cases h

/-- Each edit keeps what the fields hold. -/
theorem FieldsRead.apply {state : SovereignState} (h : FieldsRead state) :
    ∀ i : Input, FieldsRead (i.apply state)
  | .keyId v => by
    simp only [Input.apply, onKeyIdChange]
    split_ifs with h0 hv
    · exact h
    · simp only [h0, decide_False, Bool.false_or] at hv
      exact { h with keyId := ⟨_, rfl, isNatural_parseInt_of_regexTest v hv⟩ }
    · exact h
  | .nonce v => show FieldsRead (onNonceChange state v.value) from
    onNumberChange_of (P := FieldsRead) v h fun _ hx => { h with nonce := hx }
  | .chainId v => show FieldsRead (onChainIdChange state v.value) from
    onNumberChange_of (P := FieldsRead) v h fun _ hx => { h with chainId := ⟨_, rfl, hx⟩ }
  | .maxPriorityFee v => show FieldsRead (onMaxPriorityFeeChange state v.value) from
    onNumberChange_of (P := FieldsRead) v h fun _ hx => { h with maxPriorityFee := ⟨_, rfl, hx⟩ }
  | .maxFee v => show FieldsRead (onMaxFeeChange state v.value) from
    onNumberChange_of (P := FieldsRead) v h fun _ hx => { h with maxFee := ⟨_, rfl, hx⟩ }
  | .gasLimit v => { h with gasLimit := fun _ hx => parseGasLimit_isCount hx }
  | .callMessage _ | .sequencer _ => { h with }

theorem FieldsRead.inputRun {state : SovereignState} (h : FieldsRead state) (inputs : List Input) :
    FieldsRead (SovereignSnap.inputRun state inputs) := by
  induction inputs generalizing state with
  | nil => exact h
  | cons i inputs ih => exact ih (h.apply i)

/-! ## The Sign button's params -/

def numberField : Option JsNumber → JsValue
  | some x => .number x
  | none => .undefined

def gasLimitField : Option (List JsNumber) → JsValue
  | some xs => .array (xs.map .number)
  | none => .undefined

/-- The `params` the Sign button builds from the state and the parsed call message. -/
def signParams (state : SovereignState) (msg : JsValue) : JsValue :=
  .object [("keyId", numberField state.keyId),
    ("transaction", .object [("call", msg), ("nonce", .number state.nonce),
      ("chain_id", numberField state.chainId),
      ("max_priority_fee_bips", numberField state.maxPriorityFee),
      ("max_fee", numberField state.maxFee), ("gas_limit", gasLimitField state.gasLimit)])]

def finiteField : Option JsNumber → Bool
  | some x => x.isFinite
  | none => false

/-- The state's numbers all come through JSON transport as numbers. -/
def Sendable (state : SovereignState) : Prop :=
  finiteField state.keyId ∧ state.nonce.isFinite ∧ finiteField state.chainId ∧
    finiteField state.maxPriorityFee ∧ finiteField state.maxFee ∧
    ∀ xs, state.gasLimit = some xs → ∀ x ∈ xs, x.isFinite

theorem isNumber_transport_number (x : JsNumber) :
    IsNumber ((transport (.number x)).getD .undefined) ↔ x.isFinite := by
  cases x <;> simp [transport, IsNumber, JsNumber.isFinite, JsNumber.isNaN]

theorem isNumber_transport_numberField (o : Option JsNumber) :
    IsNumber ((transport (numberField o)).getD .undefined) ↔ finiteField o := by
  cases o with
  | none => simp [numberField, transport, IsNumber, finiteField]
  | some x => exact isNumber_transport_number x

theorem transport_gasLimitField (o : Option (List JsNumber)) :
    ((transport (gasLimitField o)).getD .undefined = .undefined ∨
      ∃ vs, (transport (gasLimitField o)).getD .undefined = .array vs ∧ ∀ x ∈ vs, IsNumber x) ↔
    ∀ xs, o = some xs → ∀ x ∈ xs, x.isFinite := by
  cases o with
  | none => simp [gasLimitField, transport]
  | some xs =>
    have helems : transportElements (xs.map .number) = xs.map fun x => (transport (.number x)).getD .null := by
      induction xs with
      | nil => rfl
      | cons x xs ih => simp [transportElements, ih]
    simp only [gasLimitField, transport, Option.getD_some, reduceCtorEq, false_or, array.injEq,
      exists_eq_left', helems, List.mem_map, forall_exists_index, and_imp, forall_apply_eq_imp_iff₂,
      Option.some.injEq, forall_eq']
    refine forall_congr' fun x => imp_congr_right fun _ => ?_
    rw [← isNumber_transport_number]
    cases x <;> simp [transport]

theorem signParams_accepted_iff_of (state : SovereignState) (msg : JsValue) :
    (∃ p w, transport (signParams state msg) = some p ∧ validate p signTransactionStruct = .ok w) ↔
      Sendable state ∧ ((transport msg).getD .undefined).isObject := by
  let inner : List (String × JsValue) := [("call", msg), ("nonce", .number state.nonce),
    ("chain_id", numberField state.chainId), ("max_priority_fee_bips", numberField state.maxPriorityFee),
    ("max_fee", numberField state.maxFee), ("gas_limit", gasLimitField state.gasLimit)]
  let outer : List (String × JsValue) := [("keyId", numberField state.keyId), ("transaction", .object inner)]
  have htx := @member_transportMembers inner (by simp [inner])
  have hp := @member_transportMembers outer (by simp [outer])
  have hkeys : ∀ (ps : List (String × JsValue)) keys, (∀ k ∈ ps.map Prod.fst, k ∈ keys) →
      KeysWithin (.object (transportMembers ps)) keys := fun ps keys h q hq =>
    h _ (mem_keys_transportMembers (List.mem_map_of_mem Prod.fst hq))
  have hshape : SignParamsShape (.object (transportMembers outer)) ↔
      Sendable state ∧ ((transport msg).getD .undefined).isObject := by
    have htrans : ((JsValue.object outer).member "transaction").transport.getD .undefined =
        .object (transportMembers inner) := by simp [member, lookup, outer, transport]
    rw [signParamsShape_iff, hp, hp, htrans, transactionShape_iff]
    have h1 := hkeys outer ["transaction", "keyId"] (by simp [outer])
    have h2 := hkeys inner ["call", "chain_id", "max_priority_fee_bips", "max_fee", "gas_limit", "nonce"]
      (by simp [inner])
    simp only [htx]
    simp [member, lookup, outer, inner, isObject, isNumber_transport_numberField,
      isNumber_transport_number, transport_gasLimitField, Sendable, h1, h2]
    tauto
  rw [← hshape, ← validate_signTransactionStruct]
  simp [signParams, transport, outer, inner]

/-- With a call message object, the params pass exactly when every number in
them is present and finite. -/
theorem signParams_accepted_iff (state : SovereignState) (props : List (String × JsValue)) :
    (∃ p w, transport (signParams state (.object props)) = some p ∧
      validate p signTransactionStruct = .ok w) ↔ Sendable state :=
  (signParams_accepted_iff_of state (.object props)).trans (and_iff_left rfl)

def clearedInput : NumberInputValue := ⟨"", by decide⟩

/-- The numeral of `10 ^ 309`, past the largest double. -/
def longNumeral : String := ⟨'1' :: List.replicate 309 '0'⟩

theorem longNumeral_digits : ∀ c ∈ longNumeral.toList, c.isDigit := by
  simp only [longNumeral, String.toList, List.mem_cons, List.mem_replicate]
  rintro c (rfl | ⟨-, rfl⟩) <;> rfl

theorem longNumeral_ne_empty : longNumeral ≠ "" := fun h => List.cons_ne_nil _ _ (congrArg String.data h)

theorem numeralValue_longNumeral : numeralValue longNumeral.toList = 10 ^ 309 := by
  have hnum : longNumeral = ⟨numeral (10 ^ 309)⟩ := by
    rw [show 10 ^ 309 = 1 * 10 ^ 309 by rw [one_mul], numeral_mul_pow 1 309 (by norm_num)]
    rfl
  rw [hnum]
  exact numeralValue_numeral _

theorem parseInt_longNumeral : parseInt longNumeral = .infinity false := by
  rw [show longNumeral = ⟨longNumeral.toList⟩ from rfl,
    @parseInt_digits longNumeral.toList (List.cons_ne_nil _ _) longNumeral_digits, numeralValue_longNumeral]
  norm_num [JsNumber.ofNatRounded]

theorem sanitizeNumber_longNumeral : sanitizeNumber longNumeral = "" := by
  have hfin : finiteNumeral longNumeral = false := by
    rw [show longNumeral = ⟨longNumeral.toList⟩ from rfl, finiteNumeral_digits longNumeral_digits,
      numeralValue_longNumeral]
    norm_num [doubleLimit]
  simp [sanitizeNumber, hfin]

theorem parseGasLimit_longNumeral : parseGasLimit longNumeral = some [.infinity false] := by
  have htrim : trim longNumeral = longNumeral := by simpa using trim_digits longNumeral_digits 0
  have hsplit : split longNumeral ',' = [longNumeral] :=
    split_of_not_mem fun h => absurd (longNumeral_digits _ h) (by decide)
  simp [parseGasLimit, htrim, hsplit, parseInt_longNumeral, JsNumber.isNaN, JsNumber.isNonNegative,
    longNumeral_ne_empty]

/-- Clearing the nonce input stores `NaN`, and so does typing a 310-digit maximum
fee, which the number input reports as empty; a 310-digit gas limit, typed into
a text input, stores `+∞`. After any of these edits from the initial state, no
call message object makes the Sign button's params pass `SignTransactionStruct`
after JSON transport. -/
theorem sign_params_rejected_after_clear_or_overflow :
    (inputRun initialState [.nonce clearedInput]).nonce = .nan ∧
      (inputRun initialState [.maxFee (.ofTyped longNumeral)]).maxFee = some .nan ∧
      (inputRun initialState [.gasLimit longNumeral]).gasLimit = some [.infinity false] ∧
      ∀ inputs ∈ [[Input.nonce clearedInput], [.maxFee (.ofTyped longNumeral)], [.gasLimit longNumeral]],
        ∀ props, ¬ ∃ p w, transport (signParams (inputRun initialState inputs) (.object props)) = some p ∧
          validate p signTransactionStruct = .ok w := by
  have h1 : (inputRun initialState [.nonce clearedInput]).nonce = .nan := rfl
  have h2 : (inputRun initialState [.maxFee (.ofTyped longNumeral)]).maxFee = some .nan := by
    simp only [inputRun, List.foldl_cons, List.foldl_nil, Input.apply, onMaxFeeChange, NumberInputValue.ofTyped,
      sanitizeNumber_longNumeral]
    rfl
  have h3 : (inputRun initialState [.gasLimit longNumeral]).gasLimit = some [.infinity false] :=
    parseGasLimit_longNumeral
  refine ⟨h1, h2, h3, ?_⟩
  simp only [List.mem_cons, List.mem_singleton, List.not_mem_nil, or_false, forall_eq_or_imp,
    forall_eq, signParams_accepted_iff]
  refine ⟨fun _ hs => ?_, fun _ hs => ?_, fun _ hs => ?_⟩
  · exact absurd (h1 ▸ hs.2.1) (by decide)
  · exact absurd (h2 ▸ hs.2.2.2.2.1) (by decide)
  · exact absurd (hs.2.2.2.2.2 _ h3 _ (List.mem_singleton_self _)) (by decide)

end SovereignSnap
