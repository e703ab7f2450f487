/-
Shortest decimals of large numbers.

`shortest` tries the places from the top one down and takes the first at which a step of the grid rounds to the number.
Where a step is less than half a unit of the number's last place there is one, so the decimal found has that place or a
higher one, and it is written as a whole number that ends in zeros: `shortest_of_nearest?`, `shortest_thousands`. So
are whole numbers of sixty-four binary digits, which have become multiples of a thousand near by (`text_nearest`).
-/
import SqlSession.Decimal.Style
import SqlSession.Proofs.Decimal.Binary64

namespace SqlSession.Decimal

/-! ## Steps that round to a number -/

variable {tie : Tie} {p : Parts} {g : Grid} {n : Nat} {place : Int}

/-- the least real that may round to a number, in quarter units -/
def Parts.low (p : Parts) : Nat := 4 * p.mantissa - if p.narrow then 1 else 2

theorem le_of_rounds (h : rounds p g n = true) :
    p.low * g.up ≤ n * g.down ∧ n * g.down ≤ (4 * p.mantissa + 2) * g.up := by
  by_cases heven : p.mantissa % 2 = 0
  · simpa [rounds, heven, Parts.low] using h
  · have hlt : p.low * g.up < n * g.down ∧ n * g.down < (4 * p.mantissa + 2) * g.up := by
      simpa [rounds, heven, Parts.low] using h
    exact ⟨hlt.1.le, hlt.2.le⟩

theorem rounds_of_lt (hlow : p.low * g.up < n * g.down) (hhigh : n * g.down < (4 * p.mantissa + 2) * g.up) :
    rounds p g n = true := by
  by_cases heven : p.mantissa % 2 = 0
  · simpa [rounds, heven, Parts.low] using ⟨hlow.le, hhigh.le⟩
  · simpa [rounds, heven, Parts.low] using ⟨hlow, hhigh⟩

/-- what rounds to a number is at most half its last place away -/
theorem rounds_near (h : rounds p g n = true) :
    n * g.down ≤ 4 * p.mantissa * g.up + 2 * g.up ∧ 4 * p.mantissa * g.up ≤ n * g.down + 2 * g.up := by
  obtain ⟨hlow, hhigh⟩ := le_of_rounds h
  have hwide : 4 * p.mantissa ≤ p.low + 2 := by
    unfold Parts.low
    split <;> omega
  have hscaled := Nat.mul_le_mul_right g.up hwide
  rw [Nat.add_mul] at hhigh hscaled
  exact ⟨hhigh, by omega⟩

/-- the step above a number rounds to it if the steps are finer than half its last place -/
theorem rounds_above (hdown : 0 < g.down) (hfine : g.down < 2 * g.up) :
    rounds p g (4 * p.mantissa * g.up / g.down + 1) = true := by
  have hbelow := Nat.div_mul_le_self (4 * p.mantissa * g.up) g.down
  have habove := Nat.lt_div_mul_add (a := 4 * p.mantissa * g.up) hdown
  have hlow : p.low * g.up ≤ 4 * p.mantissa * g.up := Nat.mul_le_mul_right _ (Nat.sub_le _ _)
  refine rounds_of_lt ?_ ?_ <;> rw [Nat.succ_mul]
  · omega
  · rw [Nat.add_mul]
    omega

theorem rounds_of_nearest? (h : nearest? tie p place = some n) : rounds p (Grid.at p.exponent place) n = true := by
  unfold nearest? at h
  dsimp only at h
  split at h
  · cases h
  · next hbelow _ => cases h; exact hbelow
  · next _ habove => cases h; exact habove
  · next hbelow habove =>
    split at h
    · cases h; exact hbelow
    · split at h
      · cases h; exact habove
      · cases tie with
        | up => cases h; exact habove
        | even =>
          cases h
          split
          · exact hbelow
          · exact habove

theorem nearest?_isSome (h : rounds p (Grid.at p.exponent place)
      (4 * p.mantissa * (Grid.at p.exponent place).up / (Grid.at p.exponent place).down + 1) = true) :
    (nearest? tie p place).isSome = true := by
  unfold nearest?
  dsimp only
  rw [h]
  split
  · next hfalse => cases hfalse
  · rfl
  · rfl
  · split
    · rfl
    · split
      · rfl
      · cases tie <;> rfl

/-! ## The first place -/

/-- where a place is good enough, the decimal has that place or a higher one -/
theorem shortest_of_nearest? {i : Nat} (hi : i < 24) (h : (nearest? tie p (topPlace p - i)).isSome = true) :
    ∃ (j : Nat) (digits : Nat), j ≤ i ∧ nearest? tie p (topPlace p - j) = some digits ∧
      shortest tie p = ⟨digits, topPlace p - j⟩ := by
  have hmem : i ∈ List.range 24 := List.mem_range.2 hi
  obtain ⟨found, hfound⟩ : ∃ found, (List.range 24).findSome? (fun (i : Nat) =>
      (nearest? tie p (topPlace p - i)).map fun digits => Number.mk digits (topPlace p - i)) = some found := by
    rw [← Option.isSome_iff_exists, List.findSome?_isSome_iff]
    exact ⟨i, hmem, by rwa [Option.isSome_map]⟩
  obtain ⟨before, j, after, hrange, hj, hnone⟩ := List.findSome?_eq_some_iff.1 hfound
  obtain ⟨digits, hdigits, rfl⟩ := Option.map_eq_some_iff.1 hj
  refine ⟨j, digits, ?_, hdigits, ?_⟩
  · -- the places in front of the one found have no step, so the good one is not among them
    have hbehind : i ∈ j :: after := by
      rw [hrange] at hmem
      refine (List.mem_append.1 hmem).resolve_left fun hbefore => ?_
      have := hnone i hbefore
      simp [Option.map_eq_none_iff.1 this] at h
    have hsorted : (before ++ j :: after).Pairwise (· < ·) := hrange ▸ List.pairwise_lt_range
    obtain rfl | hafter := List.mem_cons.1 hbehind
    · exact le_rfl
    · exact ((List.pairwise_cons.1 (List.pairwise_append.1 hsorted).2.1).1 i hafter).le
  · unfold shortest
    dsimp only
    rw [hfound]
    rfl

/-! ## Whole numbers that end in zeros -/

theorem toDigits_mul_pow {n : Nat} (hn : 0 < n) (k : Nat) :
    Nat.toDigits 10 (n * 10 ^ k) = Nat.toDigits 10 n ++ List.replicate k '0' := by
  induction k with
  | zero => simp
  | succ k ih =>
    have hpos : 0 < n * 10 ^ k := Nat.mul_pos hn (Nat.pow_pos (by decide))
    have hnext : n * 10 ^ (k + 1) = 10 * (n * 10 ^ k) + 0 := by ring
    have hzero : Nat.toDigits 10 0 = ['0'] := rfl
    rw [hnext, ← Nat.toDigits_append_toDigits (by decide) hpos (by decide), ih, hzero, List.append_assoc,
      List.replicate_succ']

theorem toString_mul_pow {n : Nat} (hn : 0 < n) (k : Nat) : toString (n * 10 ^ k) = toString n ++ zeros k := by
  rw [Nat.toString_eq_repr, Nat.toString_eq_repr, Nat.repr, Nat.repr, toDigits_mul_pow hn, String.ofList_append, zeros]

/-- with no place behind the point, the text is that of a whole number -/
theorem numberText_whole {style : Style} (hstyle : style.positional = none) (hpoint : style.pointZero = false)
    {digits : Nat} (hdigits : 0 < digits) (hplace : 0 ≤ place) :
    numberText style ⟨digits, place⟩ = toString (digits * 10 ^ place.toNat) := by
  rw [numberText, hstyle, toString_mul_pow hdigits]
  show positionalText style ⟨digits, place⟩ = _
  rw [positionalText]
  simp [hplace, hpoint]

theorem text_of_parts? {style : Style} {x : Float} (h : parts? x = some p) (hsign : p.negative = false)
    (hpos : p.mantissa ≠ 0) : text style x = numberText style (shortest style.tie p) := by
  rw [text, h]
  simp [hsign, hpos]

/-! ## Numbers of sixty-four binary digits -/

theorem topPlace_eq (hlow : 2 ^ 52 ≤ p.mantissa) (hhigh : p.mantissa < 2 ^ 53) (hexponent : p.exponent = 11) :
    topPlace p = 20 := by
  rw [topPlace, log2_eq hlow hhigh, hexponent]
  rfl

theorem grid_eq {k : Nat} (hexponent : p.exponent = 11) :
    Grid.at p.exponent (k : Nat) = ⟨2 ^ 9, 10 ^ k⟩ := by
  rw [hexponent, Grid.at, Int.toNat_natCast, Int.toNat_neg_natCast]
  simp only [Nat.pow_eq, Grid.mk.injEq]
  exact ⟨rfl, Nat.one_mul _⟩

/-- where a unit of the last place is `2 ^ 11`, the decimal is a multiple of a thousand, and half a unit away at most -/
theorem shortest_thousands (hlow : 2 ^ 52 ≤ p.mantissa) (hhigh : p.mantissa < 2 ^ 53) (hexponent : p.exponent = 11) :
    ∃ digits k : Nat, shortest tie p = ⟨digits, (k + 3 : Nat)⟩ ∧ 0 < digits ∧
      digits * 10 ^ (k + 3) ≤ p.mantissa * 2 ^ 11 + 2 ^ 10 ∧ p.mantissa * 2 ^ 11 ≤ digits * 10 ^ (k + 3) + 2 ^ 10 := by
  have htop := topPlace_eq hlow hhigh hexponent
  have hthousand : (nearest? tie p (topPlace p - (17 : Nat))).isSome = true := by
    refine nearest?_isSome (rounds_above ?_ ?_) <;> rw [htop, hexponent] <;> decide
  obtain ⟨j, digits, hj, hfound, hshortest⟩ := shortest_of_nearest? (by decide) hthousand
  obtain ⟨k, hk⟩ : ∃ k : Nat, topPlace p - j = (k + 3 : Nat) := ⟨17 - j, by omega⟩
  rw [hk] at hfound hshortest
  obtain ⟨hbelow, habove⟩ := rounds_near (rounds_of_nearest? hfound)
  rw [grid_eq hexponent] at hbelow habove
  dsimp only at hbelow habove
  refine ⟨digits, k, hshortest, ?_, ?_⟩
  · rcases Nat.eq_zero_or_pos digits with rfl | hpos
    · omega
    · exact hpos
  · generalize digits * 10 ^ (k + 3) = value at hbelow habove
    omega

/-- the least number with a binary digit more, which the carry of the rounding gives -/
theorem shortest_carried : shortest .up ⟨false, 2 ^ 52, 12, true⟩ = ⟨18446744073709552, 3⟩ := by
  decide

/-- a whole number of sixty-four binary digits is written as a multiple of a thousand near by -/
theorem text_nearest {style : Style} (htie : style.tie = .up) (hstyle : style.positional = none)
    (hpoint : style.pointZero = false) {n : Nat} (hlow : 2 ^ 63 ≤ n) (hhigh : n < 2 ^ 64) :
    ∃ v : Nat, 1000 ∣ v ∧ v ≤ n + 2048 ∧ n ≤ v + 2048 ∧ text style (nearest n) = toString v := by
  obtain ⟨m, k, hparts, ⟨hmlow, hmhigh, hplaces, hbelow, habove⟩⟩ := parts?_nearest hlow hhigh
  have hpos : m ≠ 0 := by omega
  have hwhole : ∀ {digits place : Nat}, 0 < digits → shortest .up ⟨false, m, k, m - 2 ^ 52 == 0⟩ = ⟨digits, place⟩ →
      text style (nearest n) = toString (digits * 10 ^ place) := by
    intro digits place hdigits hshortest
    rw [text_of_parts? hparts rfl hpos, htie, hshortest,
      numberText_whole hstyle hpoint hdigits (Int.natCast_nonneg place), Int.toNat_natCast]
  obtain rfl | ⟨rfl, rfl⟩ := hplaces
  · obtain ⟨digits, place, hshortest, hdigits, hunit⟩ :=
      @shortest_thousands .up ⟨false, m, (11 : Nat), m - 2 ^ 52 == 0⟩ hmlow hmhigh rfl
    have hnear : digits * 10 ^ (place + 3) ≤ m * 2 ^ 11 + 2 ^ 10 ∧ m * 2 ^ 11 ≤ digits * 10 ^ (place + 3) + 2 ^ 10 :=
      hunit
    have hthousand : 1000 ∣ digits * 10 ^ (place + 3) := by
      rw [pow_add, ← Nat.mul_assoc]
      exact Nat.dvd_mul_left _ _
    exact ⟨_, hthousand, by omega, by omega, hwhole hdigits hshortest⟩
  · -- the carry gives one number only, so its decimal is worked out
    have hvalue : 18446744073709552 * 10 ^ 3 = 18446744073709552000 := rfl
    refine ⟨_, ?_, ?_, ?_, hwhole (by decide) shortest_carried⟩ <;> rw [hvalue]
    · decide
    · omega
    · omega

end SqlSession.Decimal
