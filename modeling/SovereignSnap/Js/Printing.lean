import SovereignSnap.Js.Number

/-! # What a printed number determines

`Decimal.ofChars` reads back each layout `Decimal.toChars` writes, so two numbers
that print alike are equal up to `SameValueZero`.
-/

namespace SovereignSnap.Js

/-! ## Numerals of positive naturals -/

theorem digitChar_isDigit {a : Nat} (h : a < 10) : (Nat.digitChar a).isDigit := by
  interval_cases a <;> decide

theorem digitChar_eq_zero {a : Nat} (h : a < 10) (h0 : Nat.digitChar a = '0') : a = 0 := by
  interval_cases a <;> simp_all [Nat.digitChar]

theorem numeral_isDigit (d : Nat) : ∀ c ∈ numeral d, c.isDigit := by
  rw [numeral_eq]
  simp only [List.mem_map, List.mem_reverse, forall_exists_index, and_imp]
  rintro _ a ha rfl
  exact digitChar_isDigit (Nat.digits_lt_base (by norm_num) ha)

theorem not_mem_numeral {c : Char} (hc : c.isDigit = false) (d : Nat) : c ∉ numeral d :=
  fun h => by simp [numeral_isDigit d c h] at hc

theorem numeral_head {d : Nat} (hd : 0 < d) :
    ∃ c rest, numeral d = c :: rest ∧ c.isDigit ∧ c ≠ '0' := by
  have hne : Nat.digits 10 d ≠ [] := Nat.digits_ne_nil_iff_ne_zero.2 hd.ne'
  have hlast := Nat.getLast_digit_ne_zero 10 hd.ne'
  have hlt := Nat.digits_lt_base (by norm_num) (List.getLast_mem hne)
  obtain ⟨init, last, hdl⟩ := List.eq_nil_or_concat (Nat.digits 10 d) |>.resolve_left hne
  refine ⟨Nat.digitChar last, (init.reverse.map Nat.digitChar), by simp [numeral_eq, hdl],
    digitChar_isDigit (by simpa [hdl] using hlt), fun h0 => ?_⟩
  exact hlast (by simpa [hdl] using digitChar_eq_zero (by simpa [hdl] using hlt) h0)

theorem numeral_getLast {d : Nat} (hd : d % 10 ≠ 0) : (numeral d).getLast? ≠ some '0' := by
  have hd0 : 0 < d := Nat.pos_of_ne_zero fun h => hd (by simp [h])
  rw [numeral_of_pos hd0, List.getLast?_append_of_ne_nil _ (List.cons_ne_nil _ _)]
  simpa using fun h => hd (digitChar_eq_zero (Nat.mod_lt _ (by norm_num)) h)

/-! ## Cutting lists at a character -/

section Cut

variable {c : Char} {s : List Char}

theorem takeWhile_replicate_append (z : Nat) (hs : s.head? ≠ some c) :
    (List.replicate z c ++ s).takeWhile (· = c) = List.replicate z c := by
  induction z with
  | zero => cases s with
    | nil => rfl
    | cons x s => simp_all
  | succ z ih => simp [List.replicate_succ, ih]

theorem dropWhile_replicate_append (z : Nat) (hs : s.head? ≠ some c) :
    (List.replicate z c ++ s).dropWhile (· = c) = s := by
  induction z with
  | zero => cases s with
    | nil => rfl
    | cons x s => simp_all
  | succ z ih => simp [List.replicate_succ, ih]

theorem takeWhile_append_cons (hs : c ∉ s) (r : List Char) :
    (s ++ c :: r).takeWhile (· ≠ c) = s := by
  induction s with
  | nil => simp
  | cons x s ih =>
      simp only [List.mem_cons, not_or] at hs
      simpa [Ne.symm hs.1] using ih hs.2

theorem dropWhile_append_cons (hs : c ∉ s) (r : List Char) :
    (s ++ c :: r).dropWhile (· ≠ c) = c :: r := by
  induction s with
  | nil => simp
  | cons x s ih =>
      simp only [List.mem_cons, not_or] at hs
      simpa [Ne.symm hs.1] using ih hs.2

theorem append_eq_append_at {t r r' : List Char} (hs : c ∉ s) (ht : c ∉ t)
    (hr : ∀ x ∈ r.head?, x = c) (hr' : ∀ x ∈ r'.head?, x = c) (h : s ++ r = t ++ r') :
    s = t ∧ r = r' := by
  induction s generalizing t with
  | nil =>
    cases t with
    | nil => exact ⟨rfl, h⟩
    | cons y t =>
      rw [List.nil_append] at h
      subst h
      exact absurd (hr y rfl ▸ List.mem_cons_self _ _) ht
  | cons x s ih =>
    cases t with
    | nil =>
      rw [List.nil_append] at h
      subst h
      exact absurd (hr' x rfl ▸ List.mem_cons_self _ _) hs
    | cons y t =>
      simp only [List.cons_append, List.cons.injEq] at h
      obtain ⟨rfl, h⟩ := h
      simp only [List.mem_cons, not_or] at hs ht
      exact (ih hs.2 ht.2 h).imp (congrArg _) id

theorem filter_ne_of_not_mem (hs : c ∉ s) : s.filter (· ≠ c) = s :=
  List.filter_eq_self.2 fun x hx => by
    simp only [ne_eq, decide_not, Bool.not_eq_true', decide_eq_false_iff_not]
    rintro rfl
    exact hs hx

end Cut

/-! ## Reading a printed decimal back -/

/-- The digits and the exponent of the decimal a text of `Decimal.toChars` shows,
read by the layout the text has: exponential when it has an `e`, small when it
starts with `0.`, fixed when it has a point, integer otherwise. -/
def Decimal.ofChars (cs : List Char) : Nat × Int :=
  if 'e' ∈ cs then
    let s := (cs.takeWhile (· ≠ 'e')).filter (· ≠ '.')
    let exponentPart := (cs.dropWhile (· ≠ 'e')).drop 1
    let m : Int := numeralValue (exponentPart.drop 1)
    let n := (if exponentPart.head? = some '-' then -m else m) + 1
    (numeralValue s, n - s.length)
  else if '.' ∈ cs then
    if cs.head? = some '0' then
      let s := (cs.drop 2).dropWhile (· = '0')
      (numeralValue s, -(((cs.drop 2).takeWhile (· = '0')).length : Int) - s.length)
    else
      let s := cs.filter (· ≠ '.')
      (numeralValue s, ((cs.takeWhile (· ≠ '.')).length : Int) - s.length)
  else
    (numeralValue (cs.reverse.dropWhile (· = '0')).reverse,
      (cs.reverse.takeWhile (· = '0')).length)

section Layouts

variable {s : List Char} (he : 'e' ∉ s)
include he

theorem ofChars_integer (hdot : '.' ∉ s) (hlast : s.getLast? ≠ some '0') (z : Nat) :
    Decimal.ofChars (s ++ List.replicate z '0') = (numeralValue s, (z : Int)) := by
  have hrev : (s.reverse).head? ≠ some '0' := by rwa [List.head?_reverse]
  simp [Decimal.ofChars, he, hdot, List.mem_replicate, List.reverse_replicate,
    takeWhile_replicate_append z hrev, dropWhile_replicate_append z hrev]

theorem ofChars_fixed (hdot : '.' ∉ s) (hhead : s.head? ≠ some '0') {n : Nat} (hn : 0 < n)
    (hnk : n < s.length) :
    Decimal.ofChars (s.take n ++ '.' :: s.drop n) = (numeralValue s, (n : Int) - s.length) := by
  have htake : '.' ∉ s.take n := fun h => hdot (List.mem_of_mem_take h)
  have hfilter : (s.take n ++ '.' :: s.drop n).filter (· ≠ '.') = s := by
    rw [List.filter_append, filter_ne_of_not_mem htake, List.filter_cons_of_neg (by simp),
      filter_ne_of_not_mem fun h => hdot (List.mem_of_mem_drop h), List.take_append_drop]
  have hstart : (s.take n ++ '.' :: s.drop n).head? = s.head? := by
    obtain ⟨c, rest, rfl⟩ := List.exists_cons_of_ne_nil (List.ne_nil_of_length_pos (show 0 < s.length by omega))
    cases n with
    | zero => omega
    | succ n => rfl
  have hne : 'e' ∉ s.take n ++ '.' :: s.drop n := by
    simp only [List.mem_append, List.mem_cons, not_or]
    exact ⟨fun h => he (List.mem_of_mem_take h), by decide, fun h => he (List.mem_of_mem_drop h)⟩
  simp only [Decimal.ofChars, hne, if_false, List.mem_append, List.mem_cons, true_or, or_true,
    if_true, hstart, hhead, hfilter, takeWhile_append_cons htake, List.length_take]
  rw [Nat.min_eq_left hnk.le]

theorem ofChars_small (hhead : s.head? ≠ some '0') (z : Nat) :
    Decimal.ofChars ('0' :: '.' :: List.replicate z '0' ++ s) =
      (numeralValue s, -(z : Int) - s.length) := by
  have hne : 'e' ∉ '0' :: '.' :: List.replicate z '0' ++ s := by
    simp [he, List.mem_replicate]
  rw [Decimal.ofChars, if_neg hne, if_pos (by simp), if_pos (by simp)]
  simp only [List.cons_append, List.drop_succ_cons, List.drop_zero,
    takeWhile_replicate_append z hhead, dropWhile_replicate_append z hhead, List.length_replicate]

end Layouts

theorem ofChars_exponential {s mantissa : List Char} (hm : 'e' ∉ mantissa)
    (hms : mantissa.filter (· ≠ '.') = s) (x : Int) :
    Decimal.ofChars (mantissa ++ 'e' :: (if 0 ≤ x then '+' else '-') :: numeral x.natAbs) =
      (numeralValue s, x + 1 - s.length) := by
  simp only [Decimal.ofChars, List.mem_append, List.mem_cons, true_or, or_true, if_true]
  rw [takeWhile_append_cons hm, dropWhile_append_cons hm, hms]
  simp only [List.drop_succ_cons, List.drop_zero, List.head?_cons, numeralValue_numeral, Prod.mk.injEq,
    true_and, Option.some.injEq]
  by_cases hx : 0 ≤ x
  · rw [if_pos hx, if_neg (show ('+' : Char) ≠ '-' by decide)]
    omega
  · rw [if_neg hx, if_pos rfl]
    omega

/-- Reading a printed decimal gives its digits and exponent back. -/
theorem Decimal.ofChars_toChars (x : Decimal) : Decimal.ofChars x.toChars = (x.digits, x.exponent) := by
  obtain ⟨d, e, hd⟩ := x
  have hd0 : 0 < d := Nat.pos_of_ne_zero fun h => hd (by simp [h])
  obtain ⟨c, rest, hs, -, hc0⟩ := numeral_head hd0
  have he : 'e' ∉ numeral d := not_mem_numeral (by decide) d
  have hdot : '.' ∉ numeral d := not_mem_numeral (by decide) d
  have hhead : (numeral d).head? ≠ some '0' := by simp [hs, hc0]
  simp only [Decimal.toChars]
  by_cases h1 : (numeral d).length ≤ e + (numeral d).length ∧ e + (numeral d).length ≤ 21
  · rw [if_pos h1, ofChars_integer he hdot (numeral_getLast hd), numeralValue_numeral]
    simp only [Prod.mk.injEq, true_and]
    omega
  rw [if_neg h1]
  by_cases h2 : 0 < e + (numeral d).length ∧ e + (numeral d).length ≤ 21
  · rw [if_pos h2, ofChars_fixed he hdot hhead (by omega) (by omega), numeralValue_numeral]
    simp only [Prod.mk.injEq, true_and]
    omega
  rw [if_neg h2]
  by_cases h3 : -6 < e + (numeral d).length ∧ e + (numeral d).length ≤ 0
  · rw [if_pos h3, ofChars_small he hhead, numeralValue_numeral]
    simp only [Prod.mk.injEq, true_and]
    omega
  rw [if_neg h3]
  have hval : numeralValue (c :: rest) = d := hs ▸ numeralValue_numeral d
  have hce : 'e' ∉ c :: rest := hs ▸ he
  have hcd : '.' ∉ c :: rest := hs ▸ hdot
  simp only [hs, List.length_cons]
  rcases rest with _ | ⟨c', rest⟩
  · dsimp only
    rw [show ∀ l : List Char, c :: l = [c] ++ l from fun _ => rfl,
      ofChars_exponential hce (filter_ne_of_not_mem hcd), hval]
    simp only [List.length_cons, List.length_nil, Prod.mk.injEq, true_and]
    omega
  · simp only [List.mem_cons, not_or] at hce hcd
    rw [@ofChars_exponential (c :: c' :: rest) (c :: '.' :: c' :: rest)
      (by simp only [List.mem_cons, not_or]; exact ⟨hce.1, by decide, hce.2⟩)
      (by simp [Ne.symm hcd.1, Ne.symm hcd.2.1]; exact fun a ha h => hcd.2.2 (h ▸ ha)), hval]
    simp only [List.length_cons, Prod.mk.injEq, true_and]
    omega

example : Decimal.ofChars "1.5e-7".toList = (15, -8) := by decide

theorem Decimal.toChars_injective : Function.Injective Decimal.toChars := fun x y h => by
  have hxy := Decimal.ofChars_toChars x
  rw [h, Decimal.ofChars_toChars] at hxy
  obtain ⟨hd, he⟩ := Prod.mk.inj hxy
  cases x
  cases y
  simp_all

theorem Decimal.toChars_head (x : Decimal) : ∃ c rest, x.toChars = c :: rest ∧ c.isDigit := by
  obtain ⟨d, e, hd⟩ := x
  obtain ⟨c, rest, hs, hc, -⟩ := @numeral_head d (Nat.pos_of_ne_zero fun h => hd (by simp [h]))
  simp only [Decimal.toChars, hs, List.length_cons]
  split
  · exact ⟨c, _, rfl, hc⟩
  split
  · obtain ⟨n, hn⟩ : ∃ n, (e + (rest.length + 1 : Nat)).toNat = n + 1 := ⟨_, (Nat.succ_pred_eq_of_pos (by omega)).symm⟩
    exact ⟨c, _, by rw [hn]; rfl, hc⟩
  split
  · exact ⟨'0', _, rfl, by decide⟩
  · cases rest <;> exact ⟨c, _, rfl, hc⟩

theorem Decimal.toChars_ne_cons (x : Decimal) {c : Char} (hc : c.isDigit = false) (cs : List Char) :
    x.toChars ≠ c :: cs := fun h => by
  obtain ⟨c', rest, h', hc'⟩ := x.toChars_head
  rw [h'] at h
  simp_all

theorem Decimal.toChars_ne_zero (x : Decimal) : x.toChars ≠ ['0'] := fun h => by
  have hx := Decimal.ofChars_toChars x
  rw [h] at hx
  exact x.digits_mod (by rw [← (Prod.mk.inj hx).1]; rfl)

theorem Decimal.not_mem_toChars (x : Decimal) {c : Char} (hc : c.isDigit = false)
    (hm : c ∉ ['.', 'e', '+', '-']) : c ∉ x.toChars := by
  simp only [List.mem_cons, List.mem_singleton, List.not_mem_nil, or_false, not_or] at hm
  obtain ⟨hdot, he, hplus, hminus⟩ := hm
  have hn := not_mem_numeral hc
  have hzeros : ∀ n, c ∉ List.replicate n '0' := fun n h => by
    simp [List.eq_of_mem_replicate h] at hc
  have hexp : ∀ e : Int, c ∉ 'e' :: (if 0 ≤ e then '+' else '-') :: numeral e.natAbs := fun e =>
    List.not_mem_cons_of_ne_of_not_mem he
      (List.not_mem_cons_of_ne_of_not_mem (by split <;> assumption) (hn _))
  simp only [Decimal.toChars]
  generalize hs : numeral x.digits = s
  have hs : c ∉ s := hs ▸ hn _
  split
  · exact List.not_mem_append hs (hzeros _)
  split
  · exact List.not_mem_append (fun h => hs (List.mem_of_mem_take h))
      (List.not_mem_cons_of_ne_of_not_mem hdot fun h => hs (List.mem_of_mem_drop h))
  split
  · exact List.not_mem_cons_of_ne_of_not_mem (hzeros 1 <| List.mem_singleton.2 ·)
      (List.not_mem_cons_of_ne_of_not_mem hdot (List.not_mem_append (hzeros _) hs))
  split
  · exact List.not_mem_cons_of_ne_of_not_mem (fun h => hs (h ▸ List.mem_singleton_self _)) (hexp _)
  · rename_i d rest _
    exact List.not_mem_cons_of_ne_of_not_mem (fun h => hs (h ▸ List.mem_cons_self _ _))
      (List.not_mem_cons_of_ne_of_not_mem hdot
        (List.not_mem_append (fun h => hs (List.mem_cons_of_mem _ h)) (hexp _)))
  · exact hexp _

/-! ## Numbers that print alike -/

/-- `SameValueZero(x, y)` on numbers: `NaN` is itself, the two zeros are one. -/
def JsNumber.sameValueZero : JsNumber → JsNumber → Bool
  | .nan, .nan => true
  | .zero _, .zero _ => true
  | x, y => decide (x = y)

theorem JsNumber.sameValueZero_of_toString {x y : JsNumber} (h : x.toString = y.toString) :
    x.sameValueZero y := by
  have hd := congrArg String.data h
  rcases x with _ | ⟨_ | _⟩ | ⟨_ | _⟩ | ⟨_ | _, a⟩ <;> rcases y with _ | ⟨_ | _⟩ | ⟨_ | _⟩ | ⟨_ | _, b⟩ <;>
    simp only [JsNumber.toString, JsNumber.sameValueZero, ↓Char.isValue, ↓reduceIte, Bool.false_eq_true,
      List.cons.injEq, Char.reduceEq, List.nil_eq, reduceCtorEq, and_self, List.nil_append, decide_False,
      decide_True, List.singleton_append, false_and, true_and, List.ne_cons_self, List.cons_ne_self,
      JsNumber.finite.injEq, decide_eq_true_eq] at hd ⊢ <;>
    first
    | exact b.toChars_ne_cons (by decide) _ hd.symm
    | exact a.toChars_ne_cons (by decide) _ hd
    | exact b.toChars_ne_zero hd.symm
    | exact a.toChars_ne_zero hd
    | exact Decimal.toChars_injective hd

theorem JsNumber.isFinite_eq_of_toString {x y : JsNumber} (h : x.toString = y.toString) :
    x.isFinite = y.isFinite := by
  have hs := JsNumber.sameValueZero_of_toString h
  cases x <;> cases y <;> simp_all [JsNumber.sameValueZero, JsNumber.isFinite]

/-! ## Printed numbers in a list -/

theorem JsNumber.toString_ne_nil (x : JsNumber) : x.toString.data ≠ [] := by
  cases x with
  | finite negative a =>
    obtain ⟨c, rest, h, -⟩ := a.toChars_head
    cases negative <;> simp [JsNumber.toString, h]
  | infinity negative => cases negative <;> decide
  | _ => simp [JsNumber.toString]

theorem JsNumber.not_mem_toString {x : JsNumber} (hx : x.isNaN = false) {c : Char}
    (hc : c.isDigit = false) (hm : c ∉ "-Infinity.e+".toList) : c ∉ x.toString.data := by
  have hd := (Decimal.not_mem_toChars · hc (by simp_all))
  have h0 : c ≠ '0' := fun h => by simp [h] at hc
  rcases x with _ | ⟨_ | _⟩ | ⟨_ | _⟩ | ⟨_ | _, a⟩ <;> simp_all [JsNumber.toString, JsNumber.isNaN]

end SovereignSnap.Js
