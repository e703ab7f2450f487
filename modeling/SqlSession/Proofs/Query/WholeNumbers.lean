/-
Whole numbers on their way from a document into a statement.

A whole number of 64 bits, signed or unsigned, is read exactly. `Route` lists the ways it takes to a placeholder, where
its literal stands once the statement is filled. Up to `int64Max` the literal is the number's own digits
(`literal_signed`). Above, the number becomes a binary64 number, and the digits are those of a multiple of a thousand
near by (`literal_unsigned`). A step denotes the sum with its column, or is refused if it is above `int64Max`.
-/
import SqlSession.Query.Marker
import SqlSession.Proofs.Decimal.Shortest
import SqlSession.Proofs.Json.Numerals
import SqlSession.Proofs.Scan.Filling

namespace SqlSession

/-! ## A value among others -/

namespace Scan

/-- a front with as many placeholders as values takes just these -/
theorem fill_append {s : State} {cs : List Char} {values : List Datum} (h : count s cs = values.length)
    (others : List Datum) (ds : List Char) :
    fill s (values ++ others) (cs ++ ds) = fill s values cs ++ fill (run s cs) others ds := by
  have hnone : count s (fill s values cs) = 0 := by rw [count_fill (.refl s), h, Nat.min_self, Nat.sub_self]
  have hfront : fill s (values ++ others) cs = fill s values cs := by
    rw [← fill_fill (.refl s)]
    simpa [fill] using fill_append_of_count_eq_zero hnone others []
  rw [fill_parts, h, List.drop_left, hfront]

end Scan

/-- behind the values of the placeholders in front of it, a value's literal stands where its placeholder did -/
theorem fill_between {front rest : String} {before : List Datum} (hfront : placeholders front = before.length)
    (hplace : Scan.isPlaceholder (Scan.run .plain front.toList) '?' = true) (value : Datum) (after : List Datum) :
    fill (front ++ "?" ++ rest) (before ++ value :: after) = fill front before ++ value.literal ++ fill rest after := by
  have houtside := (Scan.isPlaceholder_iff.1 hplace).2
  have htext : (front ++ "?" ++ rest).toList = front.toList ++ '?' :: rest.toList := by simp
  rw [fill, htext, Scan.fill_append hfront, Scan.fill_cons_placeholder hplace, Scan.step_placeholder houtside]
  simp [fill, String.append_assoc]

/-! ## Literals -/

namespace Datum

theorem literal_signed {n : Int} (h : FitsInt64 n) : (ofJson (.whole n)).literal = toString n := by
  rw [ofJson, if_pos h, literal]

theorem literal_unsigned {n : Int} (hlow : int64Max < n) (hhigh : n ≤ Json.wholeMax) :
    ∃ v : Int, (ofJson (.whole n)).literal = toString v ∧ ((ofJson (.whole n)).literal = toString n ↔ v = n) ∧
      1000 ∣ v ∧ |v - n| ≤ 2048 := by
  have hsigned : ¬FitsInt64 n := fun h => absurd h.2 (not_le.2 hlow)
  unfold int64Max at hlow
  unfold Json.wholeMax at hhigh
  obtain ⟨k, rfl⟩ := Int.eq_ofNat_of_zero_le (show 0 ≤ n by omega)
  obtain ⟨v, hdvd, hbelow, habove, htext⟩ :=
    @Decimal.text_nearest numberStyle rfl rfl rfl k (by omega) (by omega)
  have hliteral : (ofJson (.whole k)).literal = toString v := by rw [ofJson, if_neg hsigned, literal, htext]
  refine ⟨v, hliteral, ?_, Int.natCast_dvd_natCast.2 hdvd, abs_le.2 ⟨by omega, by omega⟩⟩
  rw [hliteral, Int.ofNat_inj]
  exact ⟨toString_inj, fun h => h ▸ rfl⟩

end Datum

/-! ## Ways to a placeholder -/

namespace Query.Operand

/-- where a document has an item that is bound to a placeholder -/
inductive Route where
  | bare
  /-- beside an expression, in front of what is not looked at -/
  | single (expression : String) (unread : List Json)
  /-- in a list beside an expression, among other items -/
  | listed (expression : String) (before after unread : List Json)

namespace Route

def document (item : Json) : Route → Json
  | bare => item
  | single expression unread => .record [("[F]", .list (.text expression :: item :: unread))]
  | listed expression before after unread =>
    .record [("[F]", .list (.text expression :: .list (before ++ item :: after) :: unread))]

def text : Route → String
  | bare => "?"
  | single expression _ => expression
  | listed expression _ _ _ => expression

/-- what is bound in front of the item -/
def before : Route → List Datum
  | listed _ before _ _ => before.map Datum.ofJson
  | _ => []

/-- what is bound behind the item -/
def after : Route → List Datum
  | listed _ _ after _ => after.map Datum.ofJson
  | _ => []

end Route

theorem ofMarker_document (route : Route) (n : Int) : ∃ operand, ofMarker (route.document (.whole n)) = .ok operand ∧
    ∀ column, operand.render column = ⟨route.text, route.before ++ Datum.ofJson (.whole n) :: route.after⟩ := by
  cases route with
  | bare => exact ⟨_, rfl, fun _ => rfl⟩
  | single expression unread => exact ⟨_, rfl, fun _ => rfl⟩
  | listed expression before after unread =>
    refine ⟨_, rfl, fun _ => ?_⟩
    show Statement.mk expression ((before ++ .whole n :: after).map Datum.ofJson) = _
    rw [List.map_append, List.map_cons]
    rfl

/-! ## Steps -/

/-- what a sum or a difference of a column and a number is worth, given the column's worth -/
inductive Shifted (column : String) : String → (Int → Int) → Prop where
  | up (m : Nat) : Shifted column (column ++ " + " ++ toString m) (· + m)
  | down (m : Nat) : Shifted column (column ++ " - " ++ toString m) (· - m)

theorem appended_inj {column sign sign' : String} {m m' : Nat} (hlength : sign.toList.length = sign'.toList.length)
    (h : column ++ sign ++ toString m = column ++ sign' ++ toString m') : sign = sign' ∧ m = m' := by
  have hchars := congrArg String.toList h
  simp only [String.toList_append, List.append_assoc, List.append_cancel_left_eq] at hchars
  obtain ⟨hsign, hdigits⟩ := List.append_inj hchars hlength
  exact ⟨String.toList_inj.1 hsign, toString_inj (String.toList_inj.1 hdigits)⟩

/-- a text is worth one thing at most -/
theorem Shifted.unique {column text : String} {f g : Int → Int} (hf : Shifted column text f)
    (hg : Shifted column text g) : f = g := by
  have hlength : " + ".toList.length = " - ".toList.length := by decide
  cases hf with
  | up m =>
    generalize htext : column ++ " + " ++ toString m = text at hg
    cases hg with
    | up m' => rw [(appended_inj rfl htext).2]
    | down m' => exact absurd (appended_inj hlength htext).1 (by decide)
  | down m =>
    generalize htext : column ++ " - " ++ toString m = text at hg
    cases hg with
    | up m' => exact absurd (appended_inj hlength.symm htext).1 (by decide)
    | down m' => rw [(appended_inj rfl htext).2]

theorem shifted_increase (n : Int) (column : String) :
    ∃ text, (increase n).render column = .ofText text ∧ Shifted (quoteColumn column) text (· + n) := by
  refine ⟨_, rfl, ?_⟩
  by_cases hneg : n < 0
  · have hworth : (fun x : Int => x + n) = (· - (n.natAbs : Int)) := by
      funext x
      omega
    rw [if_pos hneg, hworth]
    exact .down n.natAbs
  · obtain ⟨m, rfl⟩ := Int.eq_ofNat_of_zero_le (not_lt.1 hneg)
    rw [if_neg hneg]
    exact .up m

theorem ofMarker_step (n : Int) : ofMarker (.record [("[I]", .whole n)]) =
    if FitsInt64 n then .ok (increase n)
    else .error (.invalidArgument ("increment step must be a number, got " ++ toString n)) := by
  show stepOfJson (.whole n) = _
  rw [stepOfJson, amount?]
  split_ifs <;> rfl

end Query.Operand

/-- **Whole numbers in statements.** A whole number of 64 bits, signed or unsigned, is read exactly. Whichever way it
takes, its value is bound to a placeholder, and its literal stands there in the filled statement. Up to `int64Max` the
literal is the number's own digits; above, it is the digits of a multiple of a thousand near by, so that no other number
keeps its own. A step up to `int64Max` is written as a text that is worth the sum with its column and nothing else; a step
above is refused. -/
theorem whole_numbers_written (n : Int) (hlow : int64Min ≤ n) (hhigh : n ≤ Json.wholeMax) :
    Json.read (toString n) = .ok (.whole n) ∧
      (∀ route : Query.Operand.Route, ∃ operand, Query.Operand.ofMarker (route.document (.whole n)) = .ok operand ∧
        ∀ column, operand.render column = ⟨route.text, route.before ++ Datum.ofJson (.whole n) :: route.after⟩) ∧
      (∀ (front rest : String) (before after : List Datum), placeholders front = before.length →
        Scan.isPlaceholder (Scan.run .plain front.toList) '?' = true →
        Statement.filled ⟨front ++ "?" ++ rest, before ++ Datum.ofJson (.whole n) :: after⟩ =
          fill front before ++ (Datum.ofJson (.whole n)).literal ++ fill rest after) ∧
      (n ≤ int64Max → (Datum.ofJson (.whole n)).literal = toString n) ∧
      (int64Max < n → ∃ v : Int, (Datum.ofJson (.whole n)).literal = toString v ∧
        ((Datum.ofJson (.whole n)).literal = toString n ↔ v = n) ∧ 1000 ∣ v ∧ |v - n| ≤ 2048) ∧
      (n ≤ int64Max → Query.Operand.ofMarker (.record [("[I]", .whole n)]) = .ok (.increase n) ∧
        ∀ column, ∃ text, (Query.Operand.increase n).render column = .ofText text ∧
          ∀ worth, Query.Operand.Shifted (Query.quoteColumn column) text worth ↔ worth = (· + n)) ∧
      (int64Max < n → Query.Operand.ofMarker (.record [("[I]", .whole n)]) =
        .error (.invalidArgument ("increment step must be a number, got " ++ toString n))) := by
  refine ⟨Json.read_toString hlow hhigh, fun route => Query.Operand.ofMarker_document route n,
    fun front rest before after hfront hplace => fill_between hfront hplace _ after,
    fun hmax => Datum.literal_signed ⟨hlow, hmax⟩, fun hover => Datum.literal_unsigned hover hhigh,
    fun hmax => ⟨?_, fun column => ?_⟩, fun hover => ?_⟩
  · rw [Query.Operand.ofMarker_step, if_pos ⟨hlow, hmax⟩]
  · obtain ⟨text, hrender, hworth⟩ := Query.Operand.shifted_increase n column
    exact ⟨text, hrender, fun worth => ⟨fun h => h.unique hworth, fun h => h ▸ hworth⟩⟩
  · rw [Query.Operand.ofMarker_step, if_neg fun h => absurd h.2 (not_le.2 hover)]

/-- the greatest unsigned number, which is written as another one -/
theorem whole_numbers_written_unsigned :
    let n : Int := 18446744073709551615
    int64Min ≤ n ∧ n ≤ Json.wholeMax ∧ int64Max < n ∧ Json.read (toString n) = .ok (.whole n) ∧
      (Datum.ofJson (.whole n)).literal = "18446744073709552000" ∧
      Query.Operand.ofMarker (.record [("[I]", .whole n)]) =
        .error (.invalidArgument "increment step must be a number, got 18446744073709551615") :=
  have h := whole_numbers_written 18446744073709551615 (by decide) (by decide)
  ⟨by decide, by decide, by decide, h.1, by decide, h.2.2.2.2.2.2 (by decide)⟩

end SqlSession
