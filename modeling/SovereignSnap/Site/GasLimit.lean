import SovereignSnap.Site.Form

/-! # The gas limit read back

`parseGasLimit` inverts `join` with `","` or `", "` on non-negative safe
integers, `-0` coming back as `+0`.
-/

namespace SovereignSnap

open Js JsValue

/-! ## Numerals between commas -/

theorem intercalate_cons_eq {α : Type} (sep w : List α) (ws : List (List α)) :
    sep.intercalate (w :: ws) = w ++ (ws.map (sep ++ ·)).flatten := by
  induction ws generalizing w with
  | nil => simp [List.intercalate]
  | cons w' ws ih =>
    rw [List.intercalate, List.intersperse_cons_cons, List.flatten_cons, List.flatten_cons,
      ← List.intercalate, ih]
    simp

theorem intercalate_cons_sep {α : Type} (c : α) (d w : List α) (ws : List (List α)) :
    (c :: d).intercalate (w :: ws) = [c].intercalate (w :: ws.map (d ++ ·)) := by
  simp [intercalate_cons_eq, Function.comp_def]

theorem join_numbers_data (sep : String) (xs : List JsNumber) :
    (join sep (xs.map .number)).data = sep.data.intercalate (xs.map fun x => x.toString.data) := by
  induction xs with
  | nil => rfl
  | cons x xs ih =>
    cases xs with
    | nil => simp [join, toStr, List.intercalate]
    | cons y ys =>
      have hjoin : join sep (number x :: (y :: ys).map number) =
          x.toString ++ sep ++ join sep ((y :: ys).map number) := rfl
      rw [List.map_cons, hjoin, String.data_append, String.data_append, ih]
      simp [intercalate_cons_eq]

theorem repr_data_isDigit (n : Nat) : ∀ c ∈ (Nat.repr n).data, c.isDigit := by
  rcases Nat.eq_zero_or_pos n with rfl | hn
  · decide
  · rw [repr_eq_numeral hn]
    exact numeral_isDigit n

theorem repr_data_ne_nil (n : Nat) : (Nat.repr n).data ≠ [] := by
  rcases Nat.eq_zero_or_pos n with rfl | hn
  · decide
  · obtain ⟨c, rest, hc, -⟩ := numeral_head hn
    rw [repr_eq_numeral hn, hc]
    exact List.cons_ne_nil _ _

/-! ## Reading the numerals back -/

theorem parseGasLimit_numerals (z : Nat) (n : Nat) (ns : List Nat) (h : ∀ m ∈ n :: ns, m < 2 ^ 53) :
    parseGasLimit ⟨[','].intercalate ((Nat.repr n).data ::
        ns.map fun m => List.replicate z ' ' ++ (Nat.repr m).data)⟩ =
      some ((n :: ns).map JsNumber.ofNat) := by
  have hcomma : ∀ m, ',' ∉ List.replicate z ' ' ++ (Nat.repr m).data := fun m hm => by
    rcases List.mem_append.1 hm with hm | hm
    · exact absurd (List.eq_of_mem_replicate hm) (by decide)
    · exact absurd (repr_data_isDigit m _ hm) (by decide)
  have hsplit : split ⟨[','].intercalate ((Nat.repr n).data ::
      ns.map fun m => List.replicate z ' ' ++ (Nat.repr m).data)⟩ ',' =
      (⟨(Nat.repr n).data⟩ : String) :: ns.map fun m => ⟨List.replicate z ' ' ++ (Nat.repr m).data⟩ := by
    rw [split, String.toList, List.splitOn_intercalate _ ',' ?_ (List.cons_ne_nil _ _)]
    · simp
    · simp only [List.mem_cons, List.mem_map]
      rintro l (rfl | ⟨m, -, rfl⟩)
      · exact fun hm => absurd (repr_data_isDigit n _ hm) (by decide)
      · exact hcomma m
  have htrim : ∀ m, trim ⟨List.replicate z ' ' ++ (Nat.repr m).data⟩ = Nat.repr m :=
    fun m => trim_digits (repr_data_isDigit m) z
  have hne : ∀ m, Nat.repr m ≠ "" := fun m h => repr_data_ne_nil m (congrArg String.data h)
  have hkeep : ∀ m, (JsNumber.ofNat m).isNaN = false ∧ (JsNumber.ofNat m).isNonNegative := by
    intro m
    unfold JsNumber.ofNat
    split <;> exact ⟨rfl, rfl⟩
  obtain ⟨c, rest, hc⟩ := List.exists_cons_of_ne_nil (repr_data_ne_nil n)
  have hnotblank : trim ⟨[','].intercalate ((Nat.repr n).data ::
      ns.map fun m => List.replicate z ' ' ++ (Nat.repr m).data)⟩ ≠ "" := by
    rw [intercalate_cons_eq, hc, List.cons_append]
    exact trim_ne_empty (repr_data_isDigit n c (hc ▸ List.mem_cons_self c rest)) _
  have hparse : ∀ m ∈ n :: ns, parseInt (Nat.repr m) = .ofNat m := fun m hm => parseInt_repr (h m hm)
  have hwords : ((⟨(Nat.repr n).data⟩ : String) :: ns.map fun m =>
      (⟨List.replicate z ' ' ++ (Nat.repr m).data⟩ : String)).map trim = (n :: ns).map Nat.repr := by
    simpa [htrim] using trim_digits (repr_data_isDigit n) 0
  have hread : ((n :: ns).map Nat.repr).map parseInt = (n :: ns).map JsNumber.ofNat := by
    rw [List.map_map]
    exact List.map_congr_left hparse
  rw [parseGasLimit, if_neg hnotblank, hsplit, hwords,
    (List.filter_eq_self (p := fun x => x != "")).2 (by simp [hne]), hread,
    List.filter_eq_self.2 (by simp [hkeep])]

/-- The numerals of non-negative safe integers joined with `","` or `", "` read back
as the integers. -/
theorem parseGasLimit_join_safe {sep : String} (hsep : sep ∈ [",", ", "]) {xs : List JsNumber}
    (hne : xs ≠ []) (hsafe : ∀ x ∈ xs, ∃ n, x.asNat? = some n ∧ n < 2 ^ 53) :
    parseGasLimit (join sep (xs.map .number)) = some (xs.map fun x => .ofNat (x.asNat?.getD 0)) := by
  have hrepr : ∀ x ∈ xs, x.toString.data = (Nat.repr (x.asNat?.getD 0)).data := fun x hx => by
    obtain ⟨n, hn, hlt⟩ := hsafe x hx
    rw [hn, Option.getD_some, JsNumber.toString_of_asNat hn (by omega)]
  obtain ⟨z, hz⟩ : ∃ z, sep.data = ',' :: List.replicate z ' ' := by
    simp only [List.mem_cons, List.mem_singleton, List.not_mem_nil, or_false] at hsep
    rcases hsep with rfl | rfl
    exacts [⟨0, rfl⟩, ⟨1, rfl⟩]
  obtain ⟨x, xs, rfl⟩ := List.exists_cons_of_ne_nil hne
  have hjoin : join sep ((x :: xs).map .number) = ⟨[','].intercalate ((Nat.repr (x.asNat?.getD 0)).data ::
      (xs.map fun x => x.asNat?.getD 0).map fun m => List.replicate z ' ' ++ (Nat.repr m).data)⟩ := by
    apply String.ext
    rw [join_numbers_data, hz, List.map_congr_left hrepr, List.map_cons, intercalate_cons_sep,
      List.map_map, List.map_map]
    rfl
  rw [hjoin, parseGasLimit_numerals z _ _ fun m hm => ?_]
  · simp
  · obtain ⟨y, hy, rfl⟩ := List.mem_map.1 (show m ∈ (x :: xs).map fun x => x.asNat?.getD 0 from hm)
    obtain ⟨n, hn, hlt⟩ := hsafe y hy
    simpa [hn] using hlt

theorem JsNumber.eq_of_sameValueZero {x y : JsNumber} (h : x.sameValueZero y) (hx : x ≠ .zero true)
    (hy : y ≠ .zero true) : x = y := by
  cases x <;> cases y <;> simp_all [JsNumber.sameValueZero]

/-- `parseGasLimit(xs.join(sep))` is `xs` for every non-empty array of non-negative
safe integers and either separator, up to `SameValueZero` and exactly when `-0`
is not among them; so the Parsed Gas Limit text reads back as the stored array,
and typing the join stores it. -/
theorem parseGasLimit_join (sep : String) (hsep : sep ∈ [",", ", "]) (xs : List JsNumber)
    (hne : xs ≠ []) (hsafe : ∀ x ∈ xs, ∃ n, x.asNat? = some n ∧ n < 2 ^ 53) :
    ∃ ys, parseGasLimit (join sep (xs.map .number)) = some ys ∧
      List.Forall₂ (fun x y => x.sameValueZero y = true) xs ys ∧ (.zero true ∉ xs → ys = xs) ∧
      (∀ state, state.gasLimit = some xs → parseGasLimit (parsedGasLimitText state) = some ys) ∧
      ∀ state, ((Input.gasLimit (join sep (xs.map .number))).apply state).gasLimit = some ys := by
  have hsame : ∀ x ∈ xs, x.sameValueZero (.ofNat (x.asNat?.getD 0)) := fun x hx => by
    obtain ⟨n, hn, hlt⟩ := hsafe x hx
    rw [hn, Option.getD_some]
    exact JsNumber.sameValueZero_of_toString (by rw [JsNumber.toString_of_asNat hn (by omega),
      JsNumber.toString_of_asNat (JsNumber.asNat?_ofNat n) (by omega)])
  have hparse := parseGasLimit_join_safe hsep hne hsafe
  refine ⟨_, hparse, ?_, fun h0 => ?_, fun state hs => ?_, fun state => hparse⟩
  · rw [List.forall₂_map_right_iff, List.forall₂_same]
    exact hsame
  · conv_rhs => rw [← List.map_id xs]
    refine List.map_congr_left fun x hx => (JsNumber.eq_of_sameValueZero (hsame x hx) ?_ ?_).symm
    · exact fun h => h0 (h ▸ hx)
    · unfold JsNumber.ofNat
      split <;> simp
  · rw [parsedGasLimitText, hs]
    exact parseGasLimit_join_safe (by simp) hne hsafe

/-- The gas vector `[21000, -0]` typed with `", "`. -/
theorem parseGasLimit_join_with_negative_zero :
    ", " ∈ [",", ", "] ∧ [JsNumber.ofNat 21000, .zero true] ≠ [] ∧
      (∀ x ∈ [JsNumber.ofNat 21000, .zero true], ∃ n, x.asNat? = some n ∧ n < 2 ^ 53) ∧
      ∃ ys, parseGasLimit (join ", " ([JsNumber.ofNat 21000, .zero true].map .number)) = some ys ∧
        List.Forall₂ (fun x y => x.sameValueZero y = true) [JsNumber.ofNat 21000, .zero true] ys ∧
        (.zero true ∉ [JsNumber.ofNat 21000, .zero true] → ys = [JsNumber.ofNat 21000, .zero true]) ∧
        (∀ state, state.gasLimit = some [JsNumber.ofNat 21000, .zero true] →
          parseGasLimit (parsedGasLimitText state) = some ys) ∧
        ∀ state, ((Input.gasLimit (join ", " ([JsNumber.ofNat 21000, .zero true].map .number))).apply
          state).gasLimit = some ys :=
  have hsafe : ∀ x ∈ [JsNumber.ofNat 21000, .zero true], ∃ n, x.asNat? = some n ∧ n < 2 ^ 53 := by
    simp only [List.mem_cons, List.mem_singleton, List.not_mem_nil, or_false]
    rintro x (rfl | rfl)
    exacts [⟨21000, JsNumber.asNat?_ofNat 21000, by norm_num⟩, ⟨0, rfl, by norm_num⟩]
  ⟨by decide, by simp, hsafe, parseGasLimit_join ", " (by decide) _ (by simp) hsafe⟩

end SovereignSnap
