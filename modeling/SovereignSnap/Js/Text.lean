import Mathlib.Data.List.DropRight
import SovereignSnap.Js.Printing

/-! # Reading numbers from text

`trim`, `split` on one character, the value sanitization of a number input, and
`parseInt(string, 10)` (ECMA-262 19.2.5) rounded to the nearest double.
-/

namespace SovereignSnap.Js

/-! ## Whitespace, `trim` and `split` -/

/-- The code points of WhiteSpace and LineTerminator (ECMA-262 12.2, 12.3): tab,
vertical tab, form feed, space, no-break space, the other space separators of
Unicode category Zs, zero-width no-break space, and the four line terminators. -/
def isWhiteSpace (c : Char) : Bool :=
  [0x09, 0x0B, 0x0C, 0x20, 0xA0, 0x1680, 0x202F, 0x205F, 0x3000, 0xFEFF,
    0x0A, 0x0D, 0x2028, 0x2029].contains c.toNat || (0x2000 ≤ c.toNat && c.toNat ≤ 0x200A)

/-- `string.trim()`: `TrimString(string, start+end)`. -/
def trim (s : String) : String :=
  ⟨(s.toList.dropWhile isWhiteSpace).rdropWhile isWhiteSpace⟩

/-- `string.split(separator)` for a separator of one character. -/
def split (s : String) (separator : Char) : List String :=
  (s.toList.splitOn separator).map String.mk

theorem isDigit_iff {c : Char} : c.isDigit ↔ 48 ≤ c.toNat ∧ c.toNat ≤ 57 := by
  simp only [Char.isDigit, Bool.and_eq_true, decide_eq_true_eq, Char.le_def, Char.toNat,
    UInt32.le_def]
  rfl

theorem isWhiteSpace_of_isDigit {c : Char} (h : c.isDigit) : isWhiteSpace c = false := by
  have := isDigit_iff.1 h
  simp only [isWhiteSpace, List.contains_cons, List.contains_nil, Bool.or_false, Bool.or_eq_false_iff,
    beq_eq_false_iff_ne, Bool.and_eq_false_iff, decide_eq_false_iff_not, not_le]
  omega

theorem trim_digits {cs : List Char} (h : ∀ c ∈ cs, c.isDigit) (z : Nat) :
    trim ⟨List.replicate z ' ' ++ cs⟩ = ⟨cs⟩ := by
  have hws : ∀ c ∈ cs, isWhiteSpace c = false := fun c hc => isWhiteSpace_of_isDigit (h c hc)
  have hdrop : (List.replicate z ' ' ++ cs).dropWhile isWhiteSpace = cs := by
    induction z with
    | zero => cases cs with
      | nil => rfl
      | cons c cs => exact List.dropWhile_cons_of_neg (by simp [hws c (List.mem_cons_self c cs)])
    | succ z ih => rw [List.replicate_succ, List.cons_append, List.dropWhile_cons_of_pos (by decide), ih]
  show String.mk (((List.replicate z ' ' ++ cs).dropWhile isWhiteSpace).rdropWhile isWhiteSpace) = ⟨cs⟩
  rw [hdrop, List.rdropWhile_eq_self_iff.2 fun hne => by simp [hws _ (List.getLast_mem hne)]]

theorem trim_ne_empty {c : Char} (hc : c.isDigit) (rest : List Char) : trim ⟨c :: rest⟩ ≠ "" := by
  have hws : ¬ isWhiteSpace c := by simp [isWhiteSpace_of_isDigit hc]
  intro h
  have h' : ((c :: rest).dropWhile isWhiteSpace).rdropWhile isWhiteSpace = [] := congrArg String.data h
  rw [List.dropWhile_cons_of_neg hws] at h'
  exact hws (List.rdropWhile_eq_nil_iff.1 h' c (List.mem_cons_self c rest))

theorem split_of_not_mem {s : String} {separator : Char} (h : separator ∉ s.toList) :
    split s separator = [s] := by
  rw [split, List.splitOn, List.splitOnP_eq_single _ _ fun c hc hsep => h (by
    rwa [beq_iff_eq.1 hsep] at hc)]
  rfl

/-! ## The HTML number input -/

def asciiDigits (cs : List Char) : Bool := cs ≠ [] && cs.all Char.isDigit

/-- The optional exponent of a valid floating-point number: `e` or `E`, an
optional sign, and digits. -/
def validExponent : List Char → Bool
  | [] => true
  | c :: rest => (c = 'e' || c = 'E') && match rest with
    | '-' :: ds | '+' :: ds => asciiDigits ds
    | ds => asciiDigits ds

/-- A valid floating-point number after its optional `-`: digits, a `.` and
digits, or both, then an optional exponent. -/
def validUnsigned (cs : List Char) : Bool :=
  match cs.dropWhile Char.isDigit with
  | '.' :: frac => asciiDigits (frac.takeWhile Char.isDigit) && validExponent (frac.dropWhile Char.isDigit)
  | rest => cs.takeWhile Char.isDigit ≠ [] && validExponent rest

/-- HTML's valid floating-point number, the only non-empty values a
`type="number"` input reports. -/
def validFloatingPointNumber (s : String) : Bool :=
  match s.toList with
  | '-' :: cs => validUnsigned cs
  | cs => validUnsigned cs

theorem not_mem_of_validExponent {c : Char} (hc : c.isDigit = false) (hce : c ≠ 'e' ∧ c ≠ 'E')
    (hcs : c ≠ '-' ∧ c ≠ '+') {cs : List Char} (h : validExponent cs) : c ∉ cs := by
  have hdigits : ∀ {ds : List Char}, asciiDigits ds → c ∉ ds := fun hd hm => by
    simp only [asciiDigits, Bool.and_eq_true, List.all_eq_true] at hd
    simp [hd.2 c hm] at hc
  match cs, h with
  | [], _ => simp
  | e :: rest, h =>
    simp only [validExponent, Bool.and_eq_true, Bool.or_eq_true, decide_eq_true_eq] at h
    obtain ⟨he, h⟩ := h
    rw [List.mem_cons, not_or]
    refine ⟨fun h' => by rcases he with rfl | rfl <;> simp_all, ?_⟩
    split at h
    · exact List.not_mem_cons_of_ne_of_not_mem hcs.1 (hdigits h)
    · exact List.not_mem_cons_of_ne_of_not_mem hcs.2 (hdigits h)
    · exact hdigits h

theorem backspace_not_mem_of_valid {s : String} (h : validFloatingPointNumber s) :
    '\x08' ∉ s.toList := by
  have hexp : ∀ {cs : List Char}, validExponent cs → '\x08' ∉ cs :=
    not_mem_of_validExponent (by decide) (by decide) (by decide)
  have hdig : ∀ ds : List Char, '\x08' ∉ ds.takeWhile Char.isDigit := fun ds hm => by
    simpa using List.mem_takeWhile_imp hm
  have hu : ∀ cs, validUnsigned cs → '\x08' ∉ cs := fun cs h => by
    rw [← List.takeWhile_append_dropWhile (p := Char.isDigit) (l := cs), List.mem_append, not_or]
    refine ⟨hdig cs, ?_⟩
    unfold validUnsigned at h
    split at h
    · rename_i frac heq
      rw [heq, ← List.takeWhile_append_dropWhile (p := Char.isDigit) (l := frac)]
      simp only [Bool.and_eq_true] at h
      simp only [List.mem_cons, List.mem_append, not_or]
      exact ⟨by decide, hdig frac, hexp h.2⟩
    · exact hexp (by simp_all)
  unfold validFloatingPointNumber at h
  split at h
  · rename_i cs heq
    rw [heq]
    simpa using hu cs h
  · exact hu _ h

/-- A valid floating-point number after its optional `-`, as a natural `m` and
a power of ten `k`: the number is `m * 10 ^ k`. -/
def unsignedParts (cs : List Char) : Nat × Int :=
  let (frac, exp) : List Char × List Char := match cs.dropWhile Char.isDigit with
    | '.' :: r => (r.takeWhile Char.isDigit, r.dropWhile Char.isDigit)
    | r => ([], r)
  let e : Int := match exp with
    | _ :: '-' :: ds => -(numeralValue ds : Int)
    | _ :: '+' :: ds => numeralValue ds
    | _ :: ds => numeralValue ds
    | [] => 0
  (numeralValue (cs.takeWhile Char.isDigit ++ frac), e - frac.length)

/-- The midpoint between the largest double and `2 ^ 1024`: a magnitude from
here on rounds to `2 ^ 1024`, which parses as no finite double. -/
def doubleLimit : Nat := 2 ^ 1024 - 2 ^ 970

def unsignedNumeral : List Char → List Char
  | '-' :: cs => cs
  | cs => cs

/-- HTML's rules for parsing floating-point number values give a finite double. -/
def finiteNumeral (s : String) : Bool :=
  let (m, k) := unsignedParts (unsignedNumeral s.toList)
  if 0 ≤ k then decide (m * 10 ^ k.toNat < doubleLimit) else decide (m < doubleLimit * 10 ^ (-k).toNat)

/-- HTML's value sanitization of a `type="number"` input: a value that is not a
valid floating-point number, or that parses to no finite double, becomes empty. -/
def sanitizeNumber (s : String) : String :=
  if validFloatingPointNumber s && finiteNumeral s then s else ""

theorem sanitizeNumber_idem (s : String) : sanitizeNumber (sanitizeNumber s) = sanitizeNumber s := by
  unfold sanitizeNumber
  split <;> simp_all [show validFloatingPointNumber "" = false by decide]

theorem finiteNumeral_digits {cs : List Char} (h : ∀ c ∈ cs, c.isDigit) :
    finiteNumeral ⟨cs⟩ = decide (numeralValue cs < doubleLimit) := by
  have hparts : unsignedParts cs = (numeralValue cs, 0) := by
    simp [unsignedParts, List.takeWhile_eq_self_iff.2 h, List.dropWhile_eq_nil_iff.2 h]
  have hsign : unsignedNumeral cs = cs := by
    unfold unsignedNumeral
    split
    · simp at h
    · rfl
  simp [finiteNumeral, hsign, hparts]

theorem sanitizeNumber_digits {cs : List Char} (hne : cs ≠ []) (h : ∀ c ∈ cs, c.isDigit)
    (hlt : numeralValue cs < doubleLimit) : sanitizeNumber ⟨cs⟩ = ⟨cs⟩ := by
  have hu : validUnsigned cs = true := by
    simp [validUnsigned, List.dropWhile_eq_nil_iff.2 h, List.takeWhile_eq_self_iff.2 h, hne, validExponent]
  have hvalid : validFloatingPointNumber ⟨cs⟩ = true := by
    unfold validFloatingPointNumber
    split
    · rename_i heq
      simp [String.toList] at heq
      simp [heq] at h
    · exact hu
  simp [sanitizeNumber, hvalid, finiteNumeral_digits h, hlt]

/-! ## Rounding a natural to a double -/

def JsNumber.negate : JsNumber → JsNumber
  | .nan => .nan
  | .infinity negative => .infinity (!negative)
  | .zero negative => .zero (!negative)
  | .finite negative x => .finite (!negative) x

/-- The double nearest a natural `n ≥ 2 ^ 53`, ties to even: with
`2 ^ 52 * 2 ^ e ≤ n < 2 ^ 53 * 2 ^ e`, the multiple of `2 ^ e` nearest `n`. -/
def nearestDouble (n : Nat) : Nat :=
  let e := n.log2 - 52
  let m := n / 2 ^ e
  let r := n % 2 ^ e
  (if 2 ^ e < 2 * r ∨ (2 * r = 2 ^ e ∧ m % 2 = 1) then m + 1 else m) * 2 ^ e

/-- Whether a natural `c` rounds to the double `d ≥ 2 ^ 53`: it lies within half
the gap to either neighbour of `d`, and a tie goes to the even significand. -/
def roundsTo (d c : Nat) : Bool :=
  let e := d.log2 - 52
  let above := 2 ^ e
  let below := if d / 2 ^ e = 2 ^ 52 then 2 ^ e / 2 else 2 ^ e
  if d / 2 ^ e % 2 = 0 then 2 * d ≤ 2 * c + below && 2 * c ≤ 2 * d + above
  else 2 * d < 2 * c + below && 2 * c < 2 * d + above

/-- `Number::toString`'s digits of a double `d ≥ 2 ^ 53` (step 5, with the choice
its note recommends): the value with the fewest significant digits that rounds
to `d`; of two, the closer to `d`, and of two as close, the one with even digits. -/
def shortestRounding (d : Nat) : Nat :=
  let candidate (p : Nat) : Option Nat :=
    let lo := d / p * p
    let hi := lo + p
    match roundsTo d lo, roundsTo d hi with
    | true, true => some (if d - lo < hi - d ∨ (d - lo = hi - d ∧ d / p % 2 = 0) then lo else hi)
    | true, false => some lo
    | false, true => some hi
    | false, false => none
  (((List.range (numeral d).length).reverse.map (10 ^ ·)).findSome? candidate).getD d

/-- `𝔽(n)` for a natural: exact below `2 ^ 53`, the nearest double in its shortest
decimal form up to the largest double, and `+∞` from the midpoint
`2 ^ 1024 - 2 ^ 970` between the largest double and `2 ^ 1024` on. -/
def JsNumber.ofNatRounded (n : Nat) : JsNumber :=
  if n < 2 ^ 53 then .ofNat n
  else if 2 ^ 1024 - 2 ^ 970 ≤ n then .infinity false
  else .ofNat (shortestRounding (nearestDouble n))

/-- `x >= 0`: the zeros, the positive numbers and `+∞`. -/
def JsNumber.isNonNegative : JsNumber → Bool
  | .zero _ | .infinity false | .finite false _ => true
  | _ => false

/-- A number read from a numeral: a non-negative integer, or `+∞` where the
numeral is too long for a double. -/
def JsNumber.IsCount (x : JsNumber) : Prop := (∃ n, x.asNat? = some n) ∨ x = .infinity false

/-- A number that denotes a natural: a zero or a positive finite integer. -/
def JsNumber.IsNatural (x : JsNumber) : Prop := ∃ n, x.asNat? = some n

theorem JsNumber.isNatural_ofNatRounded {n : Nat} (h : n < doubleLimit) :
    (JsNumber.ofNatRounded n).IsNatural := by
  unfold JsNumber.ofNatRounded
  split
  · exact ⟨n, asNat?_ofNat n⟩
  · rw [if_neg (by unfold doubleLimit at h; omega)]
    exact ⟨_, asNat?_ofNat _⟩

theorem JsNumber.isCount_ofNatRounded (n : Nat) : (JsNumber.ofNatRounded n).IsCount := by
  unfold JsNumber.ofNatRounded
  split
  · exact .inl ⟨n, asNat?_ofNat n⟩
  · split
    · exact .inr rfl
    · exact .inl ⟨_, asNat?_ofNat _⟩

theorem JsNumber.IsCount.negate {x : JsNumber} (h : x.IsCount) (hnn : x.negate.isNonNegative) :
    x.negate.IsCount := by
  rcases h with ⟨k, hk⟩ | rfl
  · cases x with
    | zero b => exact .inl ⟨0, rfl⟩
    | finite neg d => cases neg <;> simp_all [JsNumber.negate, JsNumber.isNonNegative, JsNumber.asNat?]
    | nan | infinity _ => simp [JsNumber.asNat?] at hk
  · cases hnn

/-! ## `parseInt` -/

/-- `parseInt(string, 10)` (ECMA-262 19.2.5): leading whitespace and a sign are
skipped, the longest run of decimal digits is read, and its value is rounded to
a double; no digit gives `NaN`. -/
def parseInt (string : String) : JsNumber :=
  let s := string.toList.dropWhile isWhiteSpace
  let negative := s.head? = some '-'
  let s := if s.head? = some '-' ∨ s.head? = some '+' then s.tail else s
  let z := s.takeWhile Char.isDigit
  if z = [] then .nan
  else if numeralValue z = 0 then .zero negative
  else if negative then (JsNumber.ofNatRounded (numeralValue z)).negate
  else JsNumber.ofNatRounded (numeralValue z)

theorem parseInt_empty : parseInt "" = .nan := rfl

theorem isCount_parseInt {string : String} (hnan : (parseInt string).isNaN = false)
    (hnn : (parseInt string).isNonNegative) : (parseInt string).IsCount := by
  revert hnan hnn
  simp only [parseInt]
  split_ifs <;> intro hnan hnn
  all_goals first
    | exact absurd hnan (by decide)
    | exact .inl ⟨0, rfl⟩
    | exact (JsNumber.isCount_ofNatRounded _).negate hnn
    | exact JsNumber.isCount_ofNatRounded _

theorem parseInt_digits {cs : List Char} (hne : cs ≠ []) (h : ∀ c ∈ cs, c.isDigit) :
    parseInt ⟨cs⟩ = if numeralValue cs = 0 then .zero false else .ofNatRounded (numeralValue cs) := by
  obtain ⟨c, cs', rfl⟩ := List.exists_cons_of_ne_nil hne
  have hc := h c (List.mem_cons_self c cs')
  have hsign : c ≠ '-' ∧ c ≠ '+' := by
    constructor <;> rintro rfl <;> simp at hc
  have hdrop : (c :: cs').dropWhile isWhiteSpace = c :: cs' :=
    List.dropWhile_cons_of_neg (by simp [isWhiteSpace_of_isDigit hc])
  simp only [parseInt, String.toList, hdrop, List.head?_cons, Option.some.injEq, hsign.1, hsign.2,
    or_self, if_false, List.takeWhile_eq_self_iff.2 h, reduceCtorEq, decide_False, Bool.false_eq_true]

/-- The numeral of a natural below `2 ^ 53` reads back as that natural. -/
theorem parseInt_repr {n : Nat} (h : n < 2 ^ 53) : parseInt (Nat.repr n) = .ofNat n := by
  rcases Nat.eq_zero_or_pos n with rfl | hn
  · rfl
  obtain ⟨c, rest, hcr, -⟩ := numeral_head hn
  have hdigits : ∀ c ∈ (Nat.repr n).data, c.isDigit := by
    rw [repr_eq_numeral hn]
    exact numeral_isDigit n
  have hne : (Nat.repr n).data ≠ [] := by simp [repr_eq_numeral hn, hcr]
  rw [show Nat.repr n = ⟨(Nat.repr n).data⟩ from rfl, parseInt_digits hne hdigits,
    numeralValue_repr, if_neg hn.ne']
  exact if_pos h

example : parseInt " 42px" = .ofNat 42 := by decide

end SovereignSnap.Js
