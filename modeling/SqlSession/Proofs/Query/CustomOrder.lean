/-
Orders by a list of values and by a pattern.

The values and the pattern are anybody's texts, and they stand between quotes in the statement. Values lose the characters
that could end a literal; a pattern keeps all of its characters and gets slashes.
- `within_orderValue`: what is left of a value stays within double quotes;
- `orderListText_eq`: the values of a list are literals of their own, separated by commas;
- `custom_orders_enclosed`: the key of such an order has the literals of its field, and behind them one for each value or
  one for the pattern; it is closed and has no placeholders.
-/
import SqlSession.Proofs.Scan.Literals
import SqlSession.Proofs.Query.Upkeep

namespace SqlSession.Query

open Scan (Within EndsPlain)
open Statement (Separates)

/-! ## Values -/

namespace Sanitize

/-- what is left of a value has no double quotes and no backslashes -/
theorem within_orderValue (value : String) : Within .double (orderValue value).toList := by
  have hchars : ∀ c ∈ (orderValue value).toList, Within .double [c] := by
    intro c hc
    rw [orderValue, String.toList_ofList, List.mem_filter] at hc
    have hkept := hc.2
    apply Scan.within_char
    · rintro rfl
      exact absurd hkept (by decide)
    · rintro rfl
      exact absurd hkept (by decide)
  have hall := Scan.within_flatMap (f := fun c => [c]) hchars
  rwa [List.flatMap_singleton'] at hall

end Sanitize

theorem separates_bareComma : Separates "," := by constructor <;> decide

/-- values between quotes and commas are literals between commas -/
theorem joinWith_enclosed {values : List String} (hne : values ≠ []) :
    "\"" ++ Text.joinWith "\",\"" values ++ "\"" = Text.joinWith "," (values.map Quote.double.enclose) := by
  have hone : ∀ value : String, Quote.double.enclose value = "\"" ++ value ++ "\"" := by
    intro value
    apply String.toList_inj.1
    simp [Quote.enclose, Quote.mark]
  induction values with
  | nil => exact absurd rfl hne
  | cons a rest ih =>
    cases rest with
    | nil => exact (hone a).symm
    | cons b rest =>
      calc "\"" ++ (a ++ "\",\"" ++ Text.joinWith "\",\"" (b :: rest)) ++ "\""
        _ = "\"" ++ a ++ "\"" ++ "," ++ ("\"" ++ Text.joinWith "\",\"" (b :: rest) ++ "\"") := by
          apply String.toList_inj.1
          simp
        _ = Quote.double.enclose a ++ "," ++ Text.joinWith "," ((b :: rest).map Quote.double.enclose) := by
          rw [← hone, ih (by simp)]

namespace Draft

/-- the values of a custom order as they stand in the statement -/
def valueLiterals (values : List String) : List String :=
  values.map fun value => Quote.double.enclose (Sanitize.orderValue value)

theorem orderListText_eq (d : Draft) (field : String) {values : List String} (hne : values ≠ []) :
    d.orderListText field values =
      "FIELD (" ++ Sanitize.orderField d.tablePrefix field ++ ", " ++ Text.joinWith "," (valueLiterals values) ++ ")" := by
  have hcleaned : values.map Sanitize.orderValue ≠ [] := by simpa using hne
  have hlist := joinWith_enclosed hcleaned
  rw [List.map_map] at hlist
  rw [valueLiterals]
  change _ = _ ++ Text.joinWith "," (values.map (Quote.double.enclose ∘ Sanitize.orderValue)) ++ ")"
  rw [← hlist, orderListText]
  apply String.toList_inj.1
  simp

theorem orderPatternText_eq (d : Draft) (field pattern : String) :
    d.orderPatternText field pattern =
      Sanitize.orderField d.tablePrefix field ++ " REGEXP " ++ Quote.single.enclose (addSlashes pattern) := by
  rw [orderPatternText]
  apply String.toList_inj.1
  simp [Quote.enclose, Quote.mark]

section

variable {d : Draft} {field : String} (hfield : Quiet (Sanitize.orderField d.tablePrefix field))

include hfield in
/-- the front of a list order is closed, and nothing is left in mind behind its comma -/
theorem list_front :
    Quiet ("FIELD (" ++ Sanitize.orderField d.tablePrefix field) ∧
      EndsPlain ("FIELD (" ++ Sanitize.orderField d.tablePrefix field ++ ", ") := by
  have hfront := Quiet.append (show Quiet "FIELD (" by decide) hfield (.inl (by decide))
  exact ⟨hfront, .append hfront.closed (by decide) (by decide) (by decide)⟩

theorem quiet_valueLiterals (values : List String) : Quiet (Text.joinWith "," (valueLiterals values)) := by
  apply quiet_joinWith separates_bareComma
  intro text htext
  obtain ⟨value, -, rfl⟩ := List.mem_map.1 htext
  exact quiet_enclosed (Sanitize.within_orderValue value)

theorem literals_valueLiterals (values : List String) :
    literals (Text.joinWith "," (valueLiterals values)) = values.map fun value => (.double, Sanitize.orderValue value) := by
  rw [literals_joinWith separates_bareComma (by decide)]
  · rw [valueLiterals, List.flatMap_map]
    simp only [literals_enclosed (Sanitize.within_orderValue _)]
    exact List.map_eq_flatMap.symm
  · intro text htext
    obtain ⟨value, -, rfl⟩ := List.mem_map.1 htext
    exact (quiet_enclosed (Sanitize.within_orderValue value)).closed

include hfield in
theorem quiet_orderListText {values : List String} (hne : values ≠ []) : Quiet (d.orderListText field values) := by
  obtain ⟨hfront, hplain⟩ := list_front hfield
  rw [orderListText_eq d field hne]
  have hcomma := hfront.append (show Quiet ", " by decide) (.inr (by decide))
  exact (hcomma.append (quiet_valueLiterals values) (.inl hplain)).append (by decide) (.inr (by decide))

include hfield in
theorem literals_orderListText {values : List String} (hne : values ≠ []) :
    literals (d.orderListText field values) =
      literals (Sanitize.orderField d.tablePrefix field) ++
        values.map fun value => (.double, Sanitize.orderValue value) := by
  obtain ⟨hfront, hplain⟩ := list_front hfield
  have hcomma := hfront.append (show Quiet ", " by decide) (.inr (by decide))
  have hlist := hcomma.append (quiet_valueLiterals values) (.inl hplain)
  have hnone : literals "FIELD (" = [] ∧ literals ", " = [] ∧ literals ")" = [] := by decide
  rw [orderListText_eq d field hne, literals_append hlist.closed (.inr (by decide)),
    literals_append hcomma.closed (.inl hplain), literals_append hfront.closed (.inr (by decide)),
    literals_append (by decide) (.inl (by decide)), literals_valueLiterals, hnone.1, hnone.2.1, hnone.2.2]
  simp

include hfield in
theorem quiet_orderPatternText (pattern : String) : Quiet (d.orderPatternText field pattern) := by
  rw [orderPatternText_eq]
  have hfront := hfield.append (show Quiet " REGEXP " by decide) (.inr (by decide))
  have hplain : EndsPlain (Sanitize.orderField d.tablePrefix field ++ " REGEXP ") :=
    .append hfield.closed (by decide) (by decide) (by decide)
  exact hfront.append (quiet_enclosed (within_addSlashes pattern)) (.inl hplain)

include hfield in
theorem literals_orderPatternText (pattern : String) :
    literals (d.orderPatternText field pattern) =
      literals (Sanitize.orderField d.tablePrefix field) ++ [(.single, addSlashes pattern)] := by
  have hfront := hfield.append (show Quiet " REGEXP " by decide) (.inr (by decide))
  have hplain : EndsPlain (Sanitize.orderField d.tablePrefix field ++ " REGEXP ") :=
    .append hfield.closed (by decide) (by decide) (by decide)
  have hnone : literals " REGEXP " = [] := by decide
  rw [orderPatternText_eq, literals_append hfront.closed (.inl hplain), literals_append hfield.closed (.inr (by decide)),
    hnone, literals_enclosed (within_addSlashes pattern), List.append_nil]

end

theorem Rekeyed.mem_self {key : String} {direction : Option Direction} {before after : List (String × Option Direction)}
    (h : Rekeyed key direction before after) : (key, direction) ∈ after := by
  cases h with
  | redirected there => simp
  | appended absent => simp

/-- **Custom orders stay in their literals.** Behind a field whose cleaned text is quiet, an order by a list of values has
one double-quoted literal for each value, and an order by a pattern has one single-quoted literal. Whatever the values and
the pattern are, the keys are quiet, and the pattern without its slashes is the pattern that was given. -/
theorem custom_orders_enclosed (d : Draft) {field way : String} {direction : Direction}
    (hfield : Quiet (Sanitize.orderField d.tablePrefix field)) (hway : Direction.read way = .ok direction) :
    (∀ values : List String, values ≠ [] →
      ∃ d' key, d.record (.orderList field values way) = .ok d' ∧ (key, some direction) ∈ d'.orders ∧
        key = "FIELD (" ++ Sanitize.orderField d.tablePrefix field ++ ", "
          ++ Text.joinWith "," (values.map fun value => Quote.double.enclose (Sanitize.orderValue value)) ++ ")" ∧
        Quiet key ∧
        literals key = literals (Sanitize.orderField d.tablePrefix field)
          ++ values.map fun value => (.double, Sanitize.orderValue value)) ∧
    ∀ pattern : String,
      ∃ d' key, d.record (.orderPattern field pattern way) = .ok d' ∧ (key, some direction) ∈ d'.orders ∧
        key = Sanitize.orderField d.tablePrefix field ++ " REGEXP " ++ Quote.single.enclose (addSlashes pattern) ∧
        Quiet key ∧
        literals key = literals (Sanitize.orderField d.tablePrefix field) ++ [(.single, addSlashes pattern)] ∧
        removeSlashes (addSlashes pattern) = pattern := by
  constructor
  · intro values hne
    have hrecord : d.record (.orderList field values way) =
        .ok (d.withOrder (d.orderListText field values) (some direction)) := by
      rw [record, hway]
      rfl
    refine ⟨_, d.orderListText field values, hrecord, (rekeyed_putOrder _ _ _).mem_self, ?_, ?_, ?_⟩
    · exact orderListText_eq d field hne
    · exact quiet_orderListText hfield hne
    · exact literals_orderListText hfield hne
  · intro pattern
    have hrecord : d.record (.orderPattern field pattern way) =
        .ok (d.withOrder (d.orderPatternText field pattern) (some direction)) := by
      rw [record, hway]
      rfl
    refine ⟨_, d.orderPatternText field pattern, hrecord, (rekeyed_putOrder _ _ _).mem_self, ?_, ?_, ?_, ?_⟩
    · exact orderPatternText_eq d field pattern
    · exact quiet_orderPatternText hfield pattern
    · exact literals_orderPatternText hfield pattern
    · exact removeSlashes_addSlashes pattern

/-- values and a pattern that try to end their literals -/
theorem custom_orders_enclosed_hostile :
    let values := ["a\"),(\"b", "", "x\\", "? -- 'é"]
    let pattern := "\\' OR '?\x00"
    Quiet (Sanitize.orderField "p_" "`t`.k;") ∧ Direction.read " desc" = .ok .descending ∧ values ≠ [] ∧
      (∃ d' key, (fresh "p_").record (.orderList "`t`.k;" values " desc") = .ok d' ∧
        (key, some .descending) ∈ d'.orders ∧ key = "FIELD (`p_t`.k, \"a),(b\",\"\",\"x\",\" -- é\")" ∧
        Quiet key ∧
        literals key = [(.backtick, "p_t"), (.double, "a),(b"), (.double, ""), (.double, "x"), (.double, " -- é")]) ∧
      ∃ d' key, (fresh "p_").record (.orderPattern "`t`.k;" pattern " desc") = .ok d' ∧
        (key, some .descending) ∈ d'.orders ∧ key = "`p_t`.k REGEXP '\\\\\\' OR \\'?\\0'" ∧ Quiet key ∧
        literals key = [(.backtick, "p_t"), (.single, "\\\\\\' OR \\'?\\0")] ∧
        removeSlashes "\\\\\\' OR \\'?\\0" = pattern := by
  intro values pattern
  have hfield : Quiet (Sanitize.orderField "p_" "`t`.k;") := by decide +kernel
  have hway : Direction.read " desc" = .ok .descending := by decide +kernel
  have hne : values ≠ [] := by decide
  have hslashed : addSlashes pattern = "\\\\\\' OR \\'?\\0" := by decide +kernel
  obtain ⟨hlist, hpattern⟩ := custom_orders_enclosed (fresh "p_") hfield hway
  obtain ⟨d₁, key₁, hrecord₁, hmem₁, hkey₁, hquiet₁, hliterals₁⟩ := hlist values hne
  obtain ⟨d₂, key₂, hrecord₂, hmem₂, hkey₂, hquiet₂, hliterals₂, hslashes⟩ := hpattern pattern
  refine ⟨hfield, hway, hne, ⟨d₁, key₁, hrecord₁, hmem₁, hkey₁.trans ?_, hquiet₁, hliterals₁.trans ?_⟩,
    d₂, key₂, hrecord₂, hmem₂, hkey₂.trans ?_, hquiet₂, hliterals₂.trans ?_, ?_⟩
  · decide +kernel
  · decide +kernel
  · decide +kernel
  · decide +kernel
  · rw [← hslashed]
    exact hslashes

end Draft

end SqlSession.Query
