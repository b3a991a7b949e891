import Mathlib.Data.Nat.Digits

/-! # JavaScript numbers and `Number::toString`

A finite nonzero number is kept in the shortest decimal form `Number::toString`
(ECMA-262, 6.1.6.1.20) computes from it; signed zeros, the infinities and `NaN`
are constructors of their own.
-/

namespace SovereignSnap.Js

/-! ## Decimal numerals -/

/-- Decimal digits of `n`, least significant first; `fuel` bounds their count. -/
def digitsLE : Nat → Nat → List Nat
  | 0, _ => []
  | fuel + 1, n => if n = 0 then [] else n % 10 :: digitsLE fuel (n / 10)

theorem digitsLE_eq_digits (fuel n : Nat) (h : n ≤ fuel) : digitsLE fuel n = Nat.digits 10 n := by
  induction fuel generalizing n with
  | zero => simp [digitsLE, show n = 0 by omega]
  | succ fuel ih =>
      by_cases hn : n = 0
      · simp [digitsLE, hn]
      · rw [digitsLE, if_neg hn, ih (n / 10) (by omega),
          Nat.digits_def' (by norm_num) (Nat.pos_of_ne_zero hn)]

/-- The decimal numeral of `n`, most significant digit first (empty for zero). -/
def numeral (n : Nat) : List Char := (digitsLE n n).reverse.map Nat.digitChar

theorem numeral_eq (n : Nat) : numeral n = (Nat.digits 10 n).reverse.map Nat.digitChar := by
  rw [numeral, digitsLE_eq_digits n n le_rfl]

theorem numeral_of_pos {n : Nat} (hn : 0 < n) :
    numeral n = numeral (n / 10) ++ [Nat.digitChar (n % 10)] := by
  simp [numeral_eq, Nat.digits_def' (by norm_num : 1 < 10) hn]

theorem toDigitsCore_eq (fuel n : Nat) (ds : List Char) (hn : 0 < n) (h : n ≤ fuel) :
    Nat.toDigitsCore 10 fuel n ds = numeral n ++ ds := by
  induction fuel generalizing n ds with
  | zero => omega
  | succ fuel ih =>
      rw [Nat.toDigitsCore, numeral_of_pos hn]
      split
      · rename_i h0
        simp [show n / 10 = 0 from h0, numeral_eq]
      · rename_i h0
        rw [ih _ _ (Nat.pos_of_ne_zero h0) (by omega)]
        simp

theorem repr_eq_numeral {n : Nat} (hn : 0 < n) : Nat.repr n = ⟨numeral n⟩ := by
  simp [Nat.repr, Nat.toDigits, toDigitsCore_eq (n + 1) n [] hn (by omega), List.asString]

theorem numeral_length (n : Nat) : (numeral n).length = (Nat.digits 10 n).length := by
  simp [numeral_eq]

theorem numeral_mul_pow (d e : Nat) (hd : 0 < d) :
    numeral (d * 10 ^ e) = numeral d ++ List.replicate e '0' := by
  rw [numeral_eq, numeral_eq, mul_comm, Nat.digits_base_pow_mul (by norm_num) hd]
  simp [Nat.digitChar]

def numeralValue (s : List Char) : Nat := Nat.ofDigits 10 (s.map fun c => c.toNat - '0'.toNat).reverse

theorem digitChar_toNat {a : Nat} (h : a < 10) : (Nat.digitChar a).toNat - '0'.toNat = a := by
  interval_cases a <;> rfl

theorem numeralValue_numeral (n : Nat) : numeralValue (numeral n) = n := by
  have hd : ∀ a ∈ Nat.digits 10 n, (Nat.digitChar a).toNat - '0'.toNat = a :=
    fun a ha => digitChar_toNat (Nat.digits_lt_base (by norm_num) ha)
  rw [numeralValue, numeral_eq, List.map_map, List.map_reverse, List.reverse_reverse,
    List.map_congr_left (g := id) (by simpa using hd), List.map_id, Nat.ofDigits_digits]

theorem numeralValue_repr (n : Nat) : numeralValue (Nat.repr n).data = n := by
  rcases Nat.eq_zero_or_pos n with rfl | hn
  · rfl
  · rw [repr_eq_numeral hn, numeralValue_numeral]

theorem repr_injective : Function.Injective Nat.repr := fun n m h => by
  rw [← numeralValue_repr n, h, numeralValue_repr]

/-! ## Numbers -/

/-- A positive finite number in shortest decimal form: `digits * 10 ^ exponent`. -/
structure Decimal where
  digits : Nat
  exponent : Int
  digits_mod : digits % 10 ≠ 0
deriving DecidableEq

inductive JsNumber where
  | nan
  | infinity (negative : Bool)
  | zero (negative : Bool)
  | finite (negative : Bool) (magnitude : Decimal)
deriving DecidableEq

/-- `Number::toString` of a positive finite number, steps 5 to 10: with `k` the
number of digits of `s` and `n` the position of the decimal point, the integer,
fixed, small and exponential layouts in that order. -/
def Decimal.toChars (x : Decimal) : List Char :=
  let s := numeral x.digits
  let k : Int := s.length
  let n := x.exponent + k
  if k ≤ n ∧ n ≤ 21 then s ++ List.replicate (n - k).toNat '0'
  else if 0 < n ∧ n ≤ 21 then s.take n.toNat ++ '.' :: s.drop n.toNat
  else if -6 < n ∧ n ≤ 0 then '0' :: '.' :: List.replicate (-n).toNat '0' ++ s
  else
    let e := n - 1
    let exponentPart := 'e' :: (if 0 ≤ e then '+' else '-') :: numeral e.natAbs
    match s with
    | [d] => d :: exponentPart
    | d :: rest => d :: '.' :: rest ++ exponentPart
    | [] => exponentPart

/-- `Number::toString(x)` in radix ten. -/
def JsNumber.toString : JsNumber → String
  | .nan => "NaN"
  | .zero _ => "0"
  | .infinity negative => if negative then "-Infinity" else "Infinity"
  | .finite negative x => ⟨(if negative then ['-'] else []) ++ x.toChars⟩

/-- `ToBoolean` of a number: false exactly for the zeros and `NaN`. -/
def JsNumber.truthy : JsNumber → Bool
  | .nan | .zero _ => false
  | _ => true

def JsNumber.isNaN : JsNumber → Bool
  | .nan => true
  | _ => false

def JsNumber.isFinite : JsNumber → Bool
  | .zero _ | .finite _ _ => true
  | _ => false

/-- The natural number a number denotes, if it is a non-negative integer
(either zero counts as `0`, as `===` does). -/
def JsNumber.asNat? : JsNumber → Option Nat
  | .zero _ => some 0
  | .finite false x => if 0 ≤ x.exponent then some (x.digits * 10 ^ x.exponent.toNat) else none
  | _ => none

/-! ## Naturals as numbers -/

/-- `(s, t)` with `n = s * 10 ^ t` and `s` not a multiple of ten, for `0 < n ≤ fuel`. -/
def stripZeros : Nat → Nat → Nat × Nat
  | 0, n => (n, 0)
  | fuel + 1, n =>
      if n % 10 = 0 ∧ n ≠ 0 then
        let r := stripZeros fuel (n / 10)
        (r.1, r.2 + 1)
      else (n, 0)

theorem stripZeros_spec (fuel n : Nat) (hn : 0 < n) (h : n ≤ fuel) :
    (stripZeros fuel n).1 % 10 ≠ 0 ∧ n = (stripZeros fuel n).1 * 10 ^ (stripZeros fuel n).2 := by
  induction fuel generalizing n with
  | zero => omega
  | succ fuel ih =>
      by_cases hz : n % 10 = 0
      · obtain ⟨h1, h2⟩ := ih (n / 10) (by omega) (by omega)
        simp only [stripZeros, hz, ne_eq, Nat.pos_iff_ne_zero.mp hn, not_false_eq_true, and_self,
          ite_true, pow_succ]
        refine ⟨h1, ?_⟩
        rw [← Nat.mul_assoc, ← h2]
        omega
      · simp [stripZeros, hz]

def Decimal.ofPos (n : Nat) (hn : 0 < n) : Decimal :=
  ⟨(stripZeros n n).1, (stripZeros n n).2, (stripZeros_spec n n hn le_rfl).1⟩

def JsNumber.ofNat (n : Nat) : JsNumber :=
  if hn : 0 < n then .finite false (Decimal.ofPos n hn) else .zero false

@[simp] theorem JsNumber.asNat?_ofNat (n : Nat) : (JsNumber.ofNat n).asNat? = some n := by
  unfold JsNumber.ofNat
  split
  · rename_i hn
    simp only [asNat?, Decimal.ofPos, Nat.cast_nonneg, ite_true, Int.toNat_natCast]
    exact congrArg some (stripZeros_spec n n hn le_rfl).2.symm
  · simp only [asNat?, show n = 0 by omega]

theorem JsNumber.toString_of_asNat {x : JsNumber} {n : Nat} (hx : x.asNat? = some n)
    (h : n < 10 ^ 21) : x.toString = Nat.repr n := by
  match x, hx with
  | .zero _, hx =>
      obtain rfl : 0 = n := Option.some.inj hx
      rfl
  | .finite false ⟨d, e, hd⟩, hx =>
      simp only [JsNumber.asNat?] at hx
      split at hx
      · rename_i he
        obtain rfl := Option.some.inj hx
        have hd0 : 0 < d := Nat.pos_of_ne_zero fun h0 => hd (by simp [h0])
        have hlen : (numeral d).length + e.toNat ≤ 21 := by
          have hpos : 10 ^ e.toNat * d ≠ 0 := by positivity
          have hlog := Nat.log_lt_of_lt_pow hpos (by rwa [mul_comm] at h)
          have := Nat.digits_len 10 _ (by norm_num) hpos
          rw [Nat.digits_base_pow_mul (by norm_num) hd0] at this
          simp only [List.length_append, List.length_replicate] at this
          rw [numeral_length]
          omega
        rw [repr_eq_numeral (by positivity), numeral_mul_pow d _ hd0]
        simp only [JsNumber.toString, Decimal.toChars, Bool.false_eq_true, if_false, List.nil_append]
        rw [if_pos (by omega), show e + ((numeral d).length : Int) - (numeral d).length = e by omega]
      · cases hx

example : (JsNumber.ofNat 1551).toString = "1551" := by decide

end SovereignSnap.Js
