import SovereignSnap.Js.Json

/-! # Superstruct validation and the snap's parameter structs

The combinators the structs in `types.ts` are built from, and `validate`, which
reports the first failure of superstruct's depth-first `run`.
-/

namespace SovereignSnap

open Js JsValue

inductive Struct where
  | number
  /-- `object()` with no schema: any object. -/
  | anyObject
  /-- `object(schema)`: the schema's keys and no others. -/
  | object (schema : List (String × Struct))
  /-- `type(schema)`: the schema's keys, others allowed. -/
  | type (schema : List (String × Struct))
  | optional (struct : Struct)
  | array (element : Struct)
  | never

structure Failure where
  path : List String
  message : String
deriving DecidableEq

/-- A value `number()` admits: any number but `NaN`. -/
def IsNumber (v : JsValue) : Prop := ∃ n, v = .number n ∧ n.isNaN = false

namespace Struct

/-- superstruct's `print`: strings as JSON, everything else through ToString. -/
def print : JsValue → String
  | .string s => ⟨quote s⟩
  | v => v.toStr

/-- Failure message of `never()`, which every unknown key of an `object` meets. -/
def neverMessage (v : JsValue) : String :=
  "Expected a value of type `never`, but received: `" ++ print v ++ "`"

/-- The struct's own `validator`: `none` when it accepts the value. -/
def validator : Struct → JsValue → Option String
  | number, v => match v with
      | .number n => if n.isNaN then some ("Expected a number, but received: " ++ print v) else none
      | _ => some ("Expected a number, but received: " ++ print v)
  | anyObject, v | object _, v | type _, v =>
      if v.isObject then none else some ("Expected an object, but received: " ++ print v)
  | optional s, v => match v with
      | .undefined => none
      | _ => s.validator v
  | array _, v => match v with
      | .array _ => none
      | _ => some ("Expected an array value, but received: " ++ print v)
  | never, v => some (neverMessage v)

mutual
/-- The first failure superstruct's `run` yields for `v` at `path`. -/
def check : Struct → List String → JsValue → Option Failure
  | s@(object schema), path, v =>
      match s.validator v with
      | some m => some ⟨path, m⟩
      | none => (checkSchema schema path v).orElse fun _ =>
          (v.ownProps.find? fun p => !(schema.any (·.1 == p.1))).map fun p =>
            ⟨path ++ [p.1], neverMessage p.2⟩
  | s@(type schema), path, v =>
      match s.validator v with
      | some m => some ⟨path, m⟩
      | none => checkSchema schema path v
  | s@(optional inner), path, v =>
      match s.validator v with
      | some m => some ⟨path, m⟩
      | none => match v with
        | .undefined => none
        | _ => check inner path v
  | s@(array element), path, v =>
      match s.validator v with
      | some m => some ⟨path, m⟩
      | none => (v.ownProps.findSome? fun p => check element (path ++ [p.1]) p.2)
  | s, path, v => (s.validator v).map fun m => ⟨path, m⟩

/-- The known keys of a schema, in order, each checked at `value[key]`. -/
def checkSchema : List (String × Struct) → List String → JsValue → Option Failure
  | [], _, _ => none
  | (k, s) :: rest, path, v => (check s (path ++ [k]) (v.member k)).orElse fun _ =>
      checkSchema rest path v
end

/-! ## What each struct accepts -/

variable {path : List String} {v : JsValue}

theorem orElse_eq_none {α : Type} (a : Option α) (f : Unit → Option α) :
    a.orElse f = none ↔ a = none ∧ f () = none := by
  cases a <;> simp [Option.orElse]

@[simp] theorem check_number : number.check path v = none ↔ IsNumber v := by
  cases v
  case number n => cases n.isNaN <;> simp [check, validator, IsNumber]
  all_goals simp [check, validator, IsNumber]

@[simp] theorem check_anyObject : anyObject.check path v = none ↔ v.isObject := by
  simp [check, validator]

theorem validator_of_check {s : Struct} (h : s.check path v = none) : s.validator v = none := by
  cases s <;> simp only [check] at h
  all_goals first
    | exact Option.map_eq_none'.1 h
    | split at h
      · cases h
      · assumption

@[simp] theorem check_optional (s : Struct) :
    (optional s).check path v = none ↔ v = .undefined ∨ s.check path v = none := by
  cases v
  case undefined => simp [check, validator]
  all_goals
    simp only [check, validator, reduceCtorEq, false_or]
    split
    next hm => simpa using fun h => by simp [validator_of_check h] at hm
    next => rfl

@[simp] theorem check_array (e : Struct) : (array e).check path v = none ↔
    ∃ vs, v = .array vs ∧ ∀ p ∈ indexed vs, e.check (path ++ [p.1]) p.2 = none := by
  cases v
  case array vs =>
    simp only [check, validator, ownProps, List.findSome?_eq_none_iff, Prod.forall, JsValue.array.injEq,
      exists_eq_left']
  all_goals simp only [check, validator, reduceCtorEq, false_and, exists_false, Option.map_some', iff_false]

@[simp] theorem check_object (schema : List (String × Struct)) :
    (object schema).check path v = none ↔ v.isObject ∧ checkSchema schema path v = none ∧
      ∀ p ∈ v.ownProps, p.1 ∈ schema.map Prod.fst := by
  simp only [check]
  split <;> simp_all [orElse_eq_none, validator, List.find?_eq_none]

@[simp] theorem check_type (schema : List (String × Struct)) :
    (type schema).check path v = none ↔ v.isObject ∧ checkSchema schema path v = none := by
  simp only [check]
  split <;> simp_all [validator]

@[simp] theorem checkSchema_nil : checkSchema [] path v = none := by simp [checkSchema]

@[simp] theorem checkSchema_cons (k : String) (s : Struct) (rest : List (String × Struct)) :
    checkSchema ((k, s) :: rest) path v = none ↔
      s.check (path ++ [k]) (v.member k) = none ∧ checkSchema rest path v = none := by
  simp [checkSchema, orElse_eq_none]

end Struct

/-- A `StructError`'s message: the failure's message behind its path. -/
def Failure.errorMessage (f : Failure) : String :=
  if f.path = [] then f.message else "At path: " ++ ".".intercalate f.path ++ " -- " ++ f.message

/-- `validationErr.toString()` of the `StructError` a failure raises. -/
def Failure.toString (f : Failure) : String := "StructError: " ++ f.errorMessage

/-- `validate(value, struct)`: the failure, or the value itself. -/
def validate (v : JsValue) (s : Struct) : Except Failure JsValue :=
  match s.check [] v with
  | some f => .error f
  | none => .ok v

theorem validate_eq_ok {v w : JsValue} {s : Struct} (h : validate v s = .ok w) : w = v := by
  unfold validate at h
  split at h <;> cases h
  rfl

theorem isObject_of_validate {v w : JsValue} {s : Struct} {schema : List (String × Struct)}
    (hs : s = .object schema ∨ s = .type schema) (h : validate v s = .ok w) : v.isObject := by
  by_contra hv
  rcases hs with rfl | rfl <;> simp [validate, Struct.check, Struct.validator, hv] at h

/-- `GetAddressStruct`: `type` is used instead of `object` to allow unknown properties. -/
def getAddressStruct : Struct := .type [("keyId", .number)]

/-- `TransactionStruct`, the transaction object the UI submits for signing. -/
def transactionStruct : Struct :=
  .object [("call", .anyObject), ("chain_id", .number), ("max_priority_fee_bips", .number),
    ("max_fee", .number), ("gas_limit", .optional (.array .number)), ("nonce", .number)]

/-- `SignTransactionStruct`, the parameters of `signTransaction`. -/
def signTransactionStruct : Struct := .object [("transaction", transactionStruct), ("keyId", .number)]

end SovereignSnap
