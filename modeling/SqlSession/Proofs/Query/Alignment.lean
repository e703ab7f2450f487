/-
Every value of a compiled statement stands at its own placeholder.

Main results:
- `Operand.lies_render`, `Condition.lies_render`, `Condition.lies_chain`: operands, conditions and rows of conditions
  are aligned and laid out as their layouts say;
- `Draft.lies_parts`: so are the parts of a statement;
- `Draft.compile_aligned`: a draft whose callers' texts are tidy compiles to an aligned statement, each value in the place
  its clause gives it;
- `Builder.tidy_of_freeze`: a sub-query frozen from such a draft is tidy, so the result carries over to any nesting.
-/
import SqlSession.Proofs.Query.Layout
import SqlSession.Query.Builder

namespace SqlSession.Query

open Scan (Breaks EndsPlain)
open Statement (Lies Meets separates_space separates_comma lies_ofText lies_join)

/-! ## Operands -/

namespace SubQuery

theorem breaks_labelText (q : SubQuery) : Breaks q.labelText := by
  unfold labelText
  cases q.label with
  | none => decide
  | some label =>
    cases hl : label.isEmpty with
    | true => simp only [hl, ite_true]; decide
    | false =>
      simp only [hl, Bool.false_eq_true, ite_false]
      exact .append label (by decide) (by decide)

theorem quiet_labelText {q : SubQuery} (h : ∀ label ∈ q.label, Quiet label) : Quiet q.labelText := by
  unfold labelText
  cases hq : q.label with
  | none => decide
  | some label =>
    cases hl : label.isEmpty with
    | true => simp only [hl, ite_true]; decide
    | false =>
      simp only [hl, Bool.false_eq_true, ite_false]
      exact Quiet.append (by decide) (h label (by simp [hq])) (.inl (by decide))

theorem enclosed_eq (q : SubQuery) : q.enclosed = .ofText "(" ++ q.statement ++ .ofText ")" := by
  apply Statement.ext <;> simp [enclosed]

theorem render_eq (q : SubQuery) : q.render = q.enclosed ++ .ofText q.labelText := by
  apply Statement.ext
  · rfl
  · simp [render, enclosed]

theorem lies_enclosed {q : SubQuery} (h : q.statement.Aligned) : q.enclosed.Lies q.enclosedLayout := by
  rw [enclosed_eq]
  have hopen : (Statement.ofText "(" ++ q.statement).Lies (.ofText "(" ++ q.statement.layout) :=
    (lies_ofText (by decide)).append h.lies (.inl (by decide))
  exact hopen.append (lies_ofText (by decide)) (.inr (by decide))

theorem lies_render {q : SubQuery} (h : q.Tidy) : q.render.Lies q.layout := by
  rw [render_eq]
  exact (lies_enclosed h.statement).append (lies_ofText (quiet_labelText h.label)) (.inr q.breaks_labelText)

end SubQuery

theorem quiet_whole {n : Int} (h : ¬n < 0) : Quiet (toString n) := by
  cases n with
  | ofNat n => exact quiet_natural n
  | negSucc n => omega

theorem Operand.lies_render {column : String} {value : Operand} (h : value.Tidy column) :
    (value.render column).Lies (value.layout column) := by
  cases value with
  | bind value => exact Statement.lies_placeholder value
  | step target amount =>
    have ht : Quiet (quoteColumn (target.getD column)) := h
    refine lies_ofText ?_
    show Quiet (if amount < 0 then _ else _)
    split
    · refine (ht.append (by decide) (.inr (by decide))).append (quiet_natural _) (.inl ?_)
      exact .append ht.closed (by decide) (by decide) (by decide)
    · next hn =>
      refine (ht.append (by decide) (.inr (by decide))).append (quiet_whole hn) (.inl ?_)
      exact .append ht.closed (by decide) (by decide) (by decide)
  | func expression binds => exact Statement.Aligned.lies h
  | negation name =>
    cases name with
    | none => exact lies_ofText (Quiet.append (by decide) h (.inl (by decide)))
    | some name => exact lies_ofText (Quiet.append (by decide) h (.inl (by decide)))
  | sub query => exact SubQuery.lies_render h

theorem lies_assignment {column : String} {value : Operand} (hc : Quiet (quoteColumn column)) (h : value.Tidy column) :
    (Statement.ofText (quoteColumn column ++ " = ") ++ value.render column).Lies (assignmentLayout column value) := by
  have hq : Quiet (quoteColumn column ++ " = ") := hc.append (by decide) (.inr (by decide))
  refine (lies_ofText hq).append (Operand.lies_render h) (.inl ?_)
  exact .append hc.closed (by decide) (by decide) (by decide)

/-! ## Conditions -/

namespace Condition

/-- a part between `( ` and ` )` -/
theorem lies_parenthesized {s : Statement} {l : Layout} (h : s.Lies l) :
    (Statement.ofText "( " ++ s ++ .ofText " )").Lies (.ofText "( " ++ l ++ .ofText " )") := by
  have hopen : (Statement.ofText "( " ++ s).Lies (.ofText "( " ++ l) :=
    (lies_ofText (by decide)).append h (.inl (by decide))
  exact hopen.append (lies_ofText (by decide)) (.inr (by decide))

/-- values of a list, each at a placeholder -/
theorem lies_items (items : List Datum) :
    (Statement.join ", " (items.map fun value => ⟨"?", [value]⟩)).Lies (.join ", " (items.map .ofDatum)) := by
  refine lies_join separates_comma ?_
  rw [List.forall₂_map_left_iff, List.forall₂_map_right_iff, List.forall₂_same]
  exact fun value _ => Statement.lies_placeholder value

theorem list_eq (items : List Datum) :
    Statement.mk ("( " ++ Text.joinWith ", " (items.map fun _ => "?") ++ " )") items =
      .ofText "( " ++ .join ", " (items.map fun value => ⟨"?", [value]⟩) ++ .ofText " )" := by
  apply Statement.ext
  · simp [Statement.join, Function.comp_def]
  · simp [Statement.join, List.flatMap_map]

theorem lies_range {op : String} (h : Quiet op) (low high : Datum) :
    (Statement.mk (op ++ " ? AND ?") [low, high]).Lies
      (.ofText op ++ .ofText " " ++ .ofDatum low ++ .ofText " AND " ++ .ofDatum high) := by
  have heq : Statement.mk (op ++ " ? AND ?") [low, high] =
      .ofText op ++ .ofText " " ++ ⟨"?", [low]⟩ ++ .ofText " AND " ++ ⟨"?", [high]⟩ := by
    apply Statement.ext <;> simp [String.append_assoc]
  rw [heq]
  have h1 : (Statement.ofText op ++ .ofText " ").Lies (.ofText op ++ .ofText " ") :=
    (lies_ofText h).append (lies_ofText (by decide)) (.inr (by decide))
  have h2 := h1.append (Statement.lies_placeholder low) (.inl (.append h.closed (by decide) (by decide) (by decide)))
  have hand : (Statement.ofText " AND ").Lies (.ofText " AND ") := lies_ofText (by decide)
  have h3 := h2.append hand (.inr (by decide))
  exact h3.append (Statement.lies_placeholder high)
    (.inl (.append h2.aligned.closed (by decide) (by decide) (by decide)))

/-- the field and the operator of a condition are quiet, except with a list that brings the values of the field -/
theorem Tidy.quiet {c : Condition} (h : c.Tidy) (hu : c.isUnset = false)
    (hl : c.kind = .other → ∀ items, c.comparand ≠ .list items) : Quiet c.field ∧ Quiet c.trimmedOperator := by
  unfold Tidy at h
  split at h
  · simp_all [isUnset]
  · next items hk hc => exact absurd hc (hl hk items)
  · exact ⟨h.1, h.2.1⟩
  · exact ⟨h.1, h.2.1⟩
  · exact h

/-- an operand beside an operator that does not strip it to a sub-query's text -/
theorem Tidy.operand {c : Condition} (h : c.Tidy) {value : Operand} (hc : c.comparand = .operand value)
    (hs : c.kind = .membership → ∀ query, value ≠ .sub query) : value.Tidy c.field := by
  unfold Tidy at h
  rw [hc] at h
  cases hk : c.kind <;> cases value <;> simp_all

theorem Tidy.enclosed {c : Condition} (h : c.Tidy) {query : SubQuery} (hc : c.comparand = .operand (.sub query))
    (hk : c.kind = .membership) : query.statement.Aligned := by
  unfold Tidy at h
  simp only [hk, hc] at h
  exact h.2.2

/-- two parts, the first of them quiet -/
theorem lies_two {op : String} {s : Statement} {l : Layout} (ho : Quiet op) (hs : s.Lies l) :
    List.Forall₂ Lies [.ofText op, s] [.ofText op, l] :=
  .cons (lies_ofText ho) (.cons hs .nil)

theorem lies_membership {c : Condition} (h : c.Tidy) (hk : c.kind = .membership) {parts : List Statement}
    (hp : c.membershipParts = .ok parts) : List.Forall₂ Lies parts c.sideLayouts := by
  unfold membershipParts at hp
  cases hc : c.comparand with
  | operand value =>
    have hq := (h.quiet (by simp [isUnset, hc]) (by simp [hk])).2
    by_cases hs : ∃ query, value = .sub query
    · obtain ⟨query, rfl⟩ := hs
      simp only [hc, Except.ok.injEq] at hp
      subst hp
      unfold sideLayouts
      rw [hk, hc]
      exact lies_two hq (SubQuery.lies_enclosed (h.enclosed hc hk))
    · have hv : ∀ query, value ≠ .sub query := fun query heq => hs ⟨query, heq⟩
      simp only [hc, Except.ok.injEq] at hp
      subst hp
      unfold sideLayouts
      rw [hk, hc]
      simp only
      exact lies_two hq (lies_parenthesized (Operand.lies_render (h.operand hc fun _ => hv)))
  | list items =>
    have hq := (h.quiet (by simp [isUnset, hc]) (by simp [hk])).2
    cases items with
    | nil => simp [hc] at hp
    | cons item items =>
      simp only [hc, list_eq, Except.ok.injEq] at hp
      subst hp
      unfold sideLayouts
      rw [hk, hc]
      exact lies_two hq (lies_parenthesized (lies_items (item :: items)))
  | null => simp [hc] at hp
  | unset => simp [hc] at hp

theorem lies_rangeParts {c : Condition} (h : c.Tidy) (hk : c.kind = .range) {parts : List Statement}
    (hp : c.rangeParts = .ok parts) : List.Forall₂ Lies parts c.sideLayouts := by
  unfold rangeParts at hp
  split at hp
  · next low high hc =>
    have hq := (h.quiet (by simp [isUnset, hc]) (by simp [hk])).2
    cases hp
    unfold sideLayouts
    rw [hk, hc]
    exact .cons (lies_range hq low high) .nil
  · cases hp

theorem lies_existence {c : Condition} (h : c.Tidy) (hk : c.kind = .existence) {parts : List Statement}
    (hp : c.existenceParts = .ok parts) : List.Forall₂ Lies parts c.sideLayouts := by
  unfold existenceParts at hp
  split at hp
  · next query hc =>
    have hq := (h.quiet (by simp [isUnset, hc]) (by simp [hk])).2
    cases hp
    unfold sideLayouts
    rw [hk, hc]
    exact lies_two hq (SubQuery.lies_render (h.operand hc (by simp [hk])))
  · cases hp

theorem lies_other {c : Condition} (h : c.Tidy) (hu : c.isUnset = false) (hk : c.kind = .other)
    (hl : ∀ items, c.comparand ≠ .list items) : List.Forall₂ Lies c.otherParts c.sideLayouts := by
  have hq := (h.quiet hu fun _ => hl).2
  cases hc : c.comparand with
  | operand value =>
    unfold sideLayouts otherParts
    rw [hk, hc]
    exact lies_two hq (Operand.lies_render (h.operand hc (by simp [hk])))
  | list items => exact absurd hc (hl items)
  | null =>
    unfold sideLayouts otherParts
    rw [hk, hc]
    simp only [← Layout.ofText_append]
    exact .cons (lies_ofText (hq.append (by decide) (.inr (by decide)))) .nil
  | unset => simp [isUnset, hc] at hu

/-- a field, unless it is empty, in front of the parts of the right side -/
theorem lies_field {c : Condition} (h : Quiet c.field) {parts : List Statement}
    (hp : List.Forall₂ Lies parts c.sideLayouts) :
    (Statement.join " " (c.fieldParts ++ parts)).Lies
      (.join " " ((if c.field.isEmpty then [] else [.ofText c.field]) ++ c.sideLayouts)) := by
  refine lies_join separates_space ?_
  unfold fieldParts
  by_cases hf : c.field.isEmpty
  · rw [if_pos hf, if_pos hf]
    simpa using hp
  · rw [if_neg hf, if_neg hf, List.singleton_append, List.singleton_append]
    exact .cons (lies_ofText h) hp

theorem lies_side {c : Condition} (h : c.Tidy) (hu : c.isUnset = false) {parts : List Statement} (hs : c.Side parts) :
    List.Forall₂ Lies parts c.sideLayouts := by
  cases hs with
  | membership hk hp => exact lies_membership h hk hp
  | range hk hp => exact lies_rangeParts h hk hp
  | existence hk hp => exact lies_existence h hk hp
  | other hk hl hp => exact hp ▸ lies_other h hu hk hl

theorem Side.not_values {c : Condition} {parts : List Statement} (hs : c.Side parts) (hk : c.kind = .other)
    (items : List Datum) : c.comparand ≠ .list items := by
  cases hs with
  | other _ hl _ => exact hl items
  | _ hk' => rw [hk] at hk'; cases hk'

theorem lies_render {c : Condition} (h : c.Tidy) (hu : c.isUnset = false) {s : Statement} (hs : c.render = .ok s) :
    s.Lies c.layout := by
  rcases render_cases hs with ⟨items, hk, hc, rfl⟩ | ⟨parts, hside, rfl⟩
  · unfold Tidy at h
    rw [hk, hc] at h
    unfold layout
    rw [hk, hc]
    exact h.lies
  · have hq := (h.quiet hu hside.not_values).1
    have hl : c.layout = .join " " ((if c.field.isEmpty then [] else [.ofText c.field]) ++ c.sideLayouts) := by
      unfold layout
      split
      · next items hk hc => exact absurd hc (hside.not_values hk items)
      · rfl
    rw [hl]
    exact lies_field hq (lies_side h hu hside)

theorem lies_link {c : Condition} {s : Statement} (h : s.Lies c.layout) : (c.link s).Lies c.linked := by
  have hq : Quiet (c.connective.text ++ " ") := by cases c.connective <;> decide
  have hp : EndsPlain (c.connective.text ++ " ") := by cases c.connective <;> decide
  exact (lies_ofText hq).append h (.inl hp)

/-- conditions in a row, the first with its connective -/
theorem lies_linked {conditions : List Condition} (h : ∀ c ∈ conditions, c.Tidy)
    (hu : ∀ c ∈ conditions, c.isUnset = false) {parts : List Statement} (hp : renderAll true conditions = .ok parts) :
    List.Forall₂ Lies parts (conditions.map linked) := by
  induction conditions generalizing parts with
  | nil =>
    cases hp
    exact .nil
  | cons c rest ih =>
    have hc := List.mem_cons_self (a := c) (l := rest)
    obtain ⟨shown, others, hs, ho, rfl⟩ := (renderAll_cons_ok (hu c hc)).1 hp
    have hrest := ih (fun c hc => h c (List.mem_cons_of_mem _ hc)) (fun c hc => hu c (List.mem_cons_of_mem _ hc)) ho
    exact .cons (lies_link (lies_render (h c hc) (hu c hc) hs)) hrest

theorem lies_chain {keep : Bool} {conditions : List Condition} (h : ∀ c ∈ conditions, c.Tidy) {s : Statement}
    (hs : chain keep conditions = .ok s) : s.Lies (chainLayout keep conditions) := by
  have hv : ∀ c ∈ visible conditions, c.Tidy ∧ c.isUnset = false := by
    intro c hc
    have hm := List.mem_filter.1 hc
    exact ⟨h c hm.1, by simpa using hm.2⟩
  obtain ⟨parts, hp, hs⟩ := except_bind_ok.1 hs
  cases hs
  rw [renderAll_visible] at hp
  refine lies_join separates_space ?_
  unfold chainLayouts
  generalize visible conditions = shown at hv hp
  cases keep with
  | true => exact lies_linked (fun c hc => (hv c hc).1) (fun c hc => (hv c hc).2) hp
  | false =>
    cases shown with
    | nil =>
      cases hp
      exact .nil
    | cons c rest =>
      have hc := hv c List.mem_cons_self
      have hrest : ∀ d ∈ rest, d.Tidy ∧ d.isUnset = false := fun d hd => hv d (List.mem_cons_of_mem _ hd)
      obtain ⟨first, others, hf, ho, rfl⟩ := (renderAll_cons_ok hc.2).1 hp
      exact .cons (lies_render hc.1 hc.2 hf)
        (lies_linked (fun d hd => (hrest d hd).1) (fun d hd => (hrest d hd).2) ho)

end Condition

/-! ## Sections -/

/-- the parts of a section are fragments laid out like this, its values are theirs -/
def Section.Lies (sec : Section) (ls : List Layout) : Prop :=
  ∃ parts : List Statement, sec = ⟨parts.map Statement.text, parts.flatMap Statement.binds⟩ ∧
    List.Forall₂ Statement.Lies parts ls

namespace Section

theorem lies_none : Section.none.Lies [] := ⟨[], rfl, .nil⟩

theorem Lies.append {a b : Section} {ls ms : List Layout} (ha : a.Lies ls) (hb : b.Lies ms) :
    (a ++ b).Lies (ls ++ ms) := by
  obtain ⟨ps, rfl, hp⟩ := ha
  obtain ⟨qs, rfl, hq⟩ := hb
  refine ⟨ps ++ qs, ?_, List.rel_append hp hq⟩
  rw [List.map_append, List.flatMap_append]
  rfl

theorem lies_ofParts {texts : List String} (h : ∀ text ∈ texts, Quiet text) :
    (ofParts texts).Lies (texts.map .ofText) := by
  refine ⟨texts.map Statement.ofText, ?_, ?_⟩
  · simp [ofParts, Function.comp_def, List.flatMap_map]
  · rw [List.forall₂_map_left_iff, List.forall₂_map_right_iff, List.forall₂_same]
    exact fun text ht => lies_ofText (h text ht)

theorem lies_texts {sec : Section} (hb : sec.binds = []) (h : ∀ text ∈ sec.parts, Quiet text) :
    sec.Lies (sec.parts.map .ofText) := by
  have heq : sec = ofParts sec.parts := ext rfl hb
  rw [heq]
  exact lies_ofParts h

theorem lies_ofPart {text : String} (h : Quiet text) : (ofParts [text]).Lies [.ofText text] :=
  lies_ofParts fun _ ht => List.mem_singleton.1 ht ▸ h

theorem lies_ofStatement {s : Statement} {l : Layout} (h : s.Lies l) : (ofStatement s).Lies [l] :=
  ⟨[s], by simp [ofStatement], .cons h .nil⟩

theorem lies_ofBody {s : Statement} {l : Layout} (h : s.Lies l) : (ofBody s).Lies (partOf l) := by
  unfold ofBody partOf
  rw [h.isEmpty]
  split
  · next ht => exact ⟨[], by rw [h.aligned.binds_of_empty (by simpa using ht)]; rfl, .nil⟩
  · exact lies_ofStatement h

theorem Lies.statement {sec : Section} {ls : List Layout} (h : sec.Lies ls) : sec.statement.Lies (.join " " ls) := by
  obtain ⟨parts, rfl, hp⟩ := h
  exact lies_join separates_space hp

end Section

namespace Draft

theorem lies_join {conditions : List (String × Condition)} {join : Join} (ht : join.target.Tidy)
    (ho : Quiet join.condition) (hc : ∀ c ∈ conditionsOf conditions join.target.render.text, c.Tidy) {sec : Section}
    (h : joinSection conditions join = .ok sec) : sec.Lies (joinLayouts conditions join) := by
  obtain ⟨chain, hchain, heq⟩ := except_bind_ok.1 h
  have hsec : sec = .ofParts [joinWords join.kind] ++ .ofStatement join.target.render
      ++ .ofParts (onParts join.condition) ++ .ofBody chain := by
    rw [← Except.ok.inj heq]
    apply Section.ext <;> simp [Section.ofParts, Section.ofStatement, Section.ofBody]
  have hk : Quiet (joinWords join.kind) := by cases join.kind <;> decide
  have htarget : join.target.render.Lies join.target.layout := by
    cases hj : join.target with
    | table name => exact lies_ofText (by simpa [JoinTarget.Tidy, hj] using ht)
    | sub query => exact SubQuery.lies_render (by simpa [JoinTarget.Tidy, hj] using ht)
  have hon : ∀ text ∈ onParts join.condition, Quiet text := by
    have hword : Quiet "on" := by decide
    intro text hm
    unfold onParts at hm
    split_ifs at hm
    · simp at hm
    · simp_all
    · rcases List.mem_cons.1 hm with rfl | hm
      · exact hword
      · simp_all
  rw [hsec]
  exact (((Section.lies_ofPart hk).append (Section.lies_ofStatement htarget)).append (Section.lies_ofParts hon)).append
    (Section.lies_ofBody (Condition.lies_chain hc hchain))

theorem lies_joins {conditions : List (String × Condition)} {joins : List Join} (ht : ∀ j ∈ joins, j.target.Tidy)
    (ho : ∀ j ∈ joins, Quiet j.condition)
    (hc : ∀ j ∈ joins, ∀ c ∈ conditionsOf conditions j.target.render.text, c.Tidy) {sec : Section}
    (h : joinSections conditions joins = .ok sec) : sec.Lies (joins.flatMap (joinLayouts conditions)) := by
  induction joins generalizing sec with
  | nil =>
    cases h
    exact Section.lies_none
  | cons join rest ih =>
    obtain ⟨first, hf, h⟩ := except_bind_ok.1 h
    obtain ⟨others, hs, h⟩ := except_bind_ok.1 h
    have hj := List.mem_cons_self (a := join) (l := rest)
    have hm : ∀ j ∈ rest, j ∈ join :: rest := fun j hj => List.mem_cons_of_mem _ hj
    rw [← Except.ok.inj h, List.flatMap_cons]
    exact (lies_join (ht _ hj) (ho _ hj) (hc _ hj) hf).append
      (ih (fun j hj => ht j (hm j hj)) (fun j hj => ho j (hm j hj)) (fun j hj => hc j (hm j hj)) hs)

theorem lies_conditions {keyword : String} (hk : Quiet keyword) {conditions : List Condition}
    (h : ∀ c ∈ conditions, c.Tidy) {sec : Section} (hs : conditionSection keyword conditions = .ok sec) :
    sec.Lies (conditionLayouts keyword conditions) := by
  obtain ⟨body, hb, hs⟩ := except_bind_ok.1 hs
  have hbody := Condition.lies_chain h hb
  have hword : Quiet (keyword ++ " ") := hk.append (by decide) (.inr (by decide))
  have hplain : EndsPlain (keyword ++ " ") := .append hk.closed (by decide) (by decide) (by decide)
  rw [← Except.ok.inj hs]
  unfold conditionLayouts
  by_cases ht : body.text.isEmpty
  · have hp := Section.lies_ofBody hbody
    rw [if_pos ht]
    unfold partOf at hp ⊢
    rw [hbody.isEmpty, if_pos ht] at hp ⊢
    exact hp
  · have hfull := (lies_ofText hword).append hbody (.inl hplain)
    have hne : ((Statement.ofText (keyword ++ " ") ++ body).text).isEmpty = false := by
      simp
    rw [if_neg ht, partOf, hbody.isEmpty, if_neg ht, Section.ofBody, hne]
    exact Section.lies_ofStatement hfull

theorem lies_row {row : Row} (h : ∀ e ∈ row, Quiet (quoteColumn e.1) ∧ e.2.Tidy e.1) :
    row.values.Lies (.join ", " (row.map fun e => e.2.layout e.1)) ∧
      row.assignments.Lies (.join ", " (row.map fun e => assignmentLayout e.1 e.2)) := by
  constructor
  · refine Statement.lies_join separates_comma ?_
    rw [List.forall₂_map_left_iff, List.forall₂_map_right_iff, List.forall₂_same]
    exact fun e he => Operand.lies_render (h e he).2
  · refine Statement.lies_join separates_comma ?_
    rw [List.forall₂_map_left_iff, List.forall₂_map_right_iff, List.forall₂_same]
    exact fun e he => lies_assignment (h e he).1 (h e he).2

/-- the names of the columns in parentheses -/
theorem quiet_columns {row : Row} (h : ∀ e ∈ row, Quiet (quoteColumn e.1)) :
    Quiet ("(" ++ Text.joinWith ", " (row.map fun e => quoteColumn e.1) ++ ")") := by
  have hj : Quiet (Text.joinWith ", " (row.map fun e => quoteColumn e.1)) := by
    refine quiet_joinWith separates_comma fun text ht => ?_
    obtain ⟨e, he, rfl⟩ := List.mem_map.1 ht
    exact h e he
  exact (Quiet.append (by decide) hj (.inl (by decide))).append (by decide) (.inr (by decide))

theorem lies_data {data : Data} {row : Row} (hd : data = .none ∨ data = .values row ∨ data = .set row)
    (h : ∀ e ∈ row, Quiet (quoteColumn e.1) ∧ e.2.Tidy e.1) : (dataSection data).Lies (dataLayouts data) := by
  obtain ⟨hv, ha⟩ := lies_row h
  rcases hd with rfl | rfl | rfl
  · exact Section.lies_none
  · have hvalues : (Statement.ofText "VALUES (" ++ row.values ++ .ofText ")").Lies
        (.ofText "VALUES (" ++ .join ", " (row.map fun e => e.2.layout e.1) ++ .ofText ")") :=
      ((lies_ofText (by decide)).append hv (.inl (by decide))).append (lies_ofText (by decide)) (.inr (by decide))
    refine Section.Lies.append ?_ (Section.lies_ofStatement hvalues)
    split
    · exact Section.lies_none
    · exact Section.lies_ofPart (quiet_columns fun e he => (h e he).1)
  · exact (Section.lies_ofPart (by decide)).append (Section.lies_ofStatement ha)

/-- what a column of ON DUPLICATE is assigned -/
theorem lies_duplicateValue {inserted : Row} (hi : ∀ e ∈ inserted, Quiet (quoteColumn e.1) ∧ e.2.Tidy e.1)
    {entry : String × Option Operand} (hc : Quiet (quoteColumn entry.1)) (hv : ∀ value ∈ entry.2, value.Tidy entry.1)
    {r : String × Operand} (h : duplicateValue inserted entry = .ok r) :
    (Statement.ofText (quoteColumn r.1 ++ " = ") ++ r.2.render r.1).Lies (duplicateLayout inserted entry) := by
  obtain ⟨column, own⟩ := entry
  unfold duplicateValue at h
  unfold duplicateLayout
  cases own with
  | some value =>
    cases h
    exact lies_assignment hc (hv value rfl)
  | none =>
    cases hl : inserted.lookup column with
    | none => simp [hl] at h
    | some value =>
      simp only [hl, Except.ok.injEq] at h
      subst h
      obtain ⟨front, back, rfl, -⟩ := List.lookup_eq_some_iff.1 hl
      have hmem : (column, value) ∈ front ++ (column, value) :: back := by simp
      exact lies_assignment hc (hi _ hmem).2

theorem lies_duplicateValues {inserted : Row} (hi : ∀ e ∈ inserted, Quiet (quoteColumn e.1) ∧ e.2.Tidy e.1)
    {columns : List (String × Option Operand)} (hc : ∀ e ∈ columns, Quiet (quoteColumn e.1))
    (hv : ∀ e ∈ columns, ∀ value ∈ e.2, value.Tidy e.1) {row : Row}
    (h : columns.mapM (duplicateValue inserted) = .ok row) :
    List.Forall₂ Lies (row.map fun e => .ofText (quoteColumn e.1 ++ " = ") ++ e.2.render e.1)
      (columns.map (duplicateLayout inserted)) := by
  induction columns generalizing row with
  | nil =>
    cases h
    exact .nil
  | cons entry rest ih =>
    rw [List.mapM_cons] at h
    obtain ⟨first, hf, h⟩ := except_bind_ok.1 h
    obtain ⟨others, ho, h⟩ := except_bind_ok.1 h
    cases h
    have he := List.mem_cons_self (a := entry) (l := rest)
    exact .cons (lies_duplicateValue hi (hc _ he) (hv _ he) hf)
      (ih (fun e he => hc e (List.mem_cons_of_mem _ he)) (fun e he => hv e (List.mem_cons_of_mem _ he)) ho)

theorem quiet_insertId {id : String} (h : Quiet id) : Quiet (id ++ "=LAST_INSERT_ID (" ++ id ++ ")") := by
  have hp : EndsPlain (id ++ "=LAST_INSERT_ID (") := .append h.closed (by decide) (by decide) (by decide)
  exact ((h.append (by decide) (.inr (by decide))).append h (.inl hp)).append (by decide) (.inr (by decide))

theorem isEmpty_of_forall₂ {α β : Type} {r : α → β → Prop} {xs : List α} {ys : List β} (h : List.Forall₂ r xs ys) :
    xs.isEmpty = ys.isEmpty := by
  cases h <;> rfl

/-- assignments behind their keywords, if there are any -/
theorem lies_pieces {pieces : List Statement} {ls : List Layout} (hp : List.Forall₂ Lies pieces ls) {sec : Section}
    (h : (if pieces.isEmpty then .ok .none
      else .ok (.ofParts ["ON DUPLICATE KEY UPDATE"] ++ .ofStatement (.join ", " pieces)) : Except Error Section)
        = .ok sec) :
    sec.Lies (if ls.isEmpty then [] else [.ofText "ON DUPLICATE KEY UPDATE", .join ", " ls]) := by
  rw [isEmpty_of_forall₂ hp] at h
  by_cases he : ls.isEmpty
  · rw [if_pos he, Except.ok.injEq] at h
    rw [if_pos he, ← h]
    exact Section.lies_none
  · rw [if_neg he, Except.ok.injEq] at h
    rw [if_neg he, ← h]
    exact (Section.lies_ofPart (by decide)).append
      (Section.lies_ofStatement (Statement.lies_join separates_comma hp))

theorem lies_duplicates {d : Draft} {data : Data} {row : Row}
    (hd : data = .none ∨ data = .values row ∨ data = .set row)
    (hi : ∀ e ∈ row, Quiet (quoteColumn e.1) ∧ e.2.Tidy e.1)
    (ht : data = .values row → ∀ dup ∈ d.onDuplicate, dup.Tidy) {sec : Section}
    (h : d.duplicateSectionOf data = .ok sec) : sec.Lies (d.duplicateLayouts data) := by
  rcases hd with rfl | rfl | rfl
  · cases h
    exact Section.lies_none
  · cases hdup : d.onDuplicate with
    | none =>
      simp only [duplicateSectionOf, duplicateSection, hdup, Except.ok.injEq] at h
      simp only [duplicateLayouts, hdup, ← h]
      exact Section.lies_none
    | some dup =>
      have hdupTidy := ht rfl dup hdup
      simp only [duplicateSectionOf, duplicateSection, hdup, except_bind_ok] at h
      obtain ⟨values, hvalues, h⟩ := h
      have hrow := lies_duplicateValues hi hdupTidy.columns hdupTidy.values hvalues
      have hid : List.Forall₂ Lies
          (dup.insertId.toList.map fun id => Statement.ofText (id ++ "=LAST_INSERT_ID (" ++ id ++ ")"))
          (dup.insertId.toList.map fun id => Layout.ofText (id ++ "=LAST_INSERT_ID (" ++ id ++ ")")) := by
        rw [List.forall₂_map_left_iff, List.forall₂_map_right_iff, List.forall₂_same]
        exact fun id hm => lies_ofText (quiet_insertId (hdupTidy.insertId id (by simpa using hm)))
      have hcolumns : List.Forall₂ Lies (if values.isEmpty then [] else [Row.assignments values])
          (if dup.columns.isEmpty then [] else [.join ", " (dup.columns.map (duplicateLayout row))]) := by
        have hempty : values.isEmpty = dup.columns.isEmpty := by simpa using isEmpty_of_forall₂ hrow
        rw [hempty]
        split
        · exact .nil
        · exact .cons (Statement.lies_join separates_comma hrow) .nil
      simp only [duplicateLayouts, hdup]
      exact lies_pieces (List.rel_append hid hcolumns) h
  · cases h
    exact Section.lies_none

theorem binds_groupSection (groups : List String) : (groupSection groups).binds = [] := by
  unfold groupSection; split <;> rfl

theorem binds_orderSection (orders : List (String × Option Direction)) : (orderSection orders).binds = [] := by
  unfold orderSection; split <;> rfl

theorem binds_limitSection (limit : Option Limit) : (limitSection limit).binds = [] := by
  rcases limit with _ | ⟨_ | offset, count⟩ <;> rfl

theorem binds_lockSection (lock : Option RowLock) : (lockSection lock).binds = [] := by
  cases lock <;> rfl

theorem quiet_group {groups : List String} (h : ∀ g ∈ groups, Quiet g) :
    ∀ text ∈ (groupSection groups).parts, Quiet text := by
  intro text ht
  unfold groupSection at ht
  split at ht
  · simp [Section.none] at ht
  · cases List.mem_singleton.1 ht
    exact Quiet.append (by decide) (quiet_joinWith separates_comma h) (.inl (by decide))

theorem quiet_order {orders : List (String × Option Direction)} (h : ∀ o ∈ orders, Quiet o.1) :
    ∀ text ∈ (orderSection orders).parts, Quiet text := by
  intro text ht
  unfold orderSection at ht
  split at ht
  · simp [Section.none] at ht
  · cases List.mem_singleton.1 ht
    refine Quiet.append (by decide) (quiet_joinWith separates_comma fun text ht => ?_) (.inl (by decide))
    obtain ⟨⟨expression, direction⟩, ho, rfl⟩ := List.mem_map.1 ht
    have hexpr : Quiet expression := h _ ho
    cases direction with
    | none => exact hexpr
    | some direction =>
      have hword : Quiet direction.text := by cases direction <;> decide
      exact (hexpr.append (by decide) (.inr (by decide))).append hword
        (.inl (.append hexpr.closed (by decide) (by decide) (by decide)))

theorem quiet_limit (limit : Option Limit) : ∀ text ∈ (limitSection limit).parts, Quiet text := by
  intro text ht
  rcases limit with _ | ⟨_ | offset, count⟩
  · simp [limitSection, Section.none] at ht
  · cases List.mem_singleton.1 ht
    exact Quiet.append (by decide) (quiet_natural count) (.inl (by decide))
  · cases List.mem_singleton.1 ht
    have ho : Quiet ("LIMIT " ++ toString offset) := Quiet.append (by decide) (quiet_natural offset) (.inl (by decide))
    exact (ho.append (by decide) (.inr (by decide))).append (quiet_natural count)
      (.inl (.append ho.closed (by decide) (by decide) (by decide)))

theorem quiet_lock (lock : Option RowLock) : ∀ text ∈ (lockSection lock).parts, Quiet text := by
  intro text ht
  cases lock with
  | none => simp [lockSection, Section.none] at ht
  | some lock =>
    cases List.mem_singleton.1 ht
    cases lock <;> decide

/-- the words in front of the sections, the caller's names among them -/
theorem quiet_head {d : Draft} {table : String} {command : Command} (h : ∀ name ∈ command.names d table, Quiet name) :
    ∀ word ∈ command.head d table, Quiet word := by
  have hmod : ∀ word ∈ d.modifierWords, Quiet word := by
    intro word hw
    obtain ⟨modifier, -, rfl⟩ := List.mem_map.1 hw
    cases modifier <;> decide
  have hwords : ∀ word ∈ ["SELECT", "FROM", "INTO", "UPDATE", "DELETE", "INSERT", "REPLACE"], Quiet word := by decide
  intro word hw
  by_cases hn : word ∈ command.names d table
  · exact h word hn
  by_cases hm : word ∈ d.modifierWords
  · exact hmod word hm
  clear h hmod
  refine hwords word ?_
  cases command with
  | select =>
    simp only [Command.head, Command.names, List.mem_append, List.mem_cons, List.not_mem_nil] at hw hn ⊢
    tauto
  | insert verb row =>
    cases verb
    all_goals
      simp only [Command.head, Command.names, InsertVerb.text, List.mem_append, List.mem_cons, List.not_mem_nil]
        at hw hn ⊢
      tauto
  | update row force =>
    simp only [Command.head, Command.names, List.mem_append, List.mem_cons, List.not_mem_nil] at hw hn ⊢
    tauto
  | delete force =>
    simp only [Command.head, Command.names, List.mem_append, List.mem_cons] at hw hn ⊢
    split_ifs at hw hn
    all_goals
      simp only [List.mem_cons, List.not_mem_nil] at hw hn ⊢
      tauto

/-- the parts of a statement, each laid out as its clause says -/
theorem lies_parts {d : Draft} {command : Command} (h : d.Tidy command) {table : String} (ht : d.target = .ok table)
    (r : Rendered d command.data) :
    (Section.ofParts (command.head d table) ++ r.front ++ r.wheres ++ r.back).Lies
      (d.partLayouts (command.head d table) command.data) := by
  have hd : command.data = .none ∨ command.data = .values command.row ∨ command.data = .set command.row := by
    cases command <;> simp [Command.data, Command.row]
  have hdup : command.data = .values command.row → ∀ dup ∈ d.onDuplicate, dup.Tidy := by
    intro heq
    cases command with
    | insert verb row => exact h.duplicates verb row rfl
    | _ => cases heq
  have hhead := Section.lies_ofParts (quiet_head (h.names table ht))
  have hjoins := lies_joins h.targets h.joins h.joinConditions r.joins_ok
  have hdata := lies_data hd h.row
  have hwheres := lies_conditions (by decide) h.wheres r.wheres_ok
  have hgroups := Section.lies_texts (binds_groupSection d.groups) (quiet_group h.groups)
  have hhavings := lies_conditions (by decide) h.havings r.havings_ok
  have horders := Section.lies_texts (binds_orderSection d.orders) (quiet_order h.orders)
  have hlimit := Section.lies_texts (binds_limitSection d.limit) (quiet_limit d.limit)
  have hduplicate := lies_duplicates hd h.row hdup r.duplicate_ok
  have hlock := Section.lies_texts (binds_lockSection d.lock) (quiet_lock d.lock)
  have hback := ((((hgroups.append hhavings).append horders).append hlimit).append hduplicate).append hlock
  have hall := ((hhead.append (hjoins.append hdata)).append hwheres).append hback
  simpa only [Rendered.front, Rendered.back, partLayouts, List.append_assoc] using hall

theorem lies_compile {d : Draft} {command : Command} (h : d.Tidy command) {s : Statement}
    (hs : d.compile command = .ok s) : s.Lies (d.layout command) := by
  obtain ⟨-, table, ht, hs⟩ := compile_eq_ok.1 hs
  obtain ⟨r, rfl⟩ := assemble_eq_ok.1 hs
  rw [layout, ht]
  exact (lies_parts h ht r).statement

end Draft

/-- a sub-query frozen from a tidy draft is tidy where it is used -/
theorem Builder.tidy_of_freeze {b : Builder} (h : b.draft.Tidy .select) (hl : ∀ label ∈ b.label, Quiet label)
    {query : SubQuery} (hq : b.freeze.2 = .ok query) : query.Tidy := by
  unfold freeze at hq
  cases hs : b.draft.compileSelect with
  | error e => simp [hs, Except.map] at hq
  | ok s =>
    simp only [hs, Except.map, Except.ok.injEq] at hq
    subst hq
    exact ⟨(Draft.lies_compile h hs).aligned, hl⟩

/-! ## Statements -/

namespace Draft

/-- **Every value at its own placeholder.** A draft whose callers' texts are tidy compiles, for any command, to a closed
text with as many placeholders as there are values. With each value in the place of its placeholder the text is the
layout of the draft, in which each clause holds its own values. -/
theorem compile_aligned (d : Draft) (command : Command) (h : d.Tidy command) (s : Statement)
    (hs : d.compile command = .ok s) :
    Closed s.text ∧ s.placeholders = s.binds.length ∧ s.layout = d.layout command ∧
      (d.layout command).values = s.binds := by
  have hl := lies_compile h hs
  refine ⟨hl.aligned.closed, hl.aligned.counted, hl.laid, ?_⟩
  rw [← hl.laid]
  exact Scan.values_weave _ _ _ hl.aligned.counted

/-- orders of adult users in some states, with a note that shows a question mark -/
def openOrders : Draft :=
  { fresh "shop_" with
    table := some "orders"
    columns := "state, COUNT(*)"
    joins := [⟨.left, .sub ⟨⟨"SELECT id FROM users WHERE age > ?", [.int 18]⟩, some "u"⟩, "u.id = user"⟩]
    wheres := [⟨.and, "state", "in", .list [.text "new", .text "paid"]⟩,
      ⟨.or, "note <> '?' AND size > ?", "", .list [.int 5]⟩]
    groups := ["state"]
    havings := [⟨.and, "COUNT(*)", ">", .operand (.func "? * 2" [.int 3])⟩]
    limit := some ⟨none, 10⟩ }

theorem tidy_openOrders : openOrders.Tidy .select where
  names := by
    intro table ht
    have heq : openOrders.target = .ok "shop_orders" := by rfl
    cases heq.symm.trans ht
    decide
  targets := by
    intro j hj
    cases List.mem_singleton.1 hj
    exact ⟨⟨by decide, by decide⟩, by decide⟩
  joins := by decide
  joinConditions := by
    intro j hj c hc
    simp [openOrders, fresh, conditionsOf] at hc
  wheres := by
    intro c hc
    rcases List.mem_cons.1 hc with rfl | hc
    · exact ⟨by decide, by decide⟩
    · cases List.mem_singleton.1 hc
      exact ⟨by decide, by decide⟩
  havings := by
    intro c hc
    cases List.mem_singleton.1 hc
    exact ⟨by decide, by decide, by decide, by decide⟩
  groups := by decide
  orders := by decide
  row := by
    intro e he
    cases he
  duplicates := by
    intro verb row h
    cases h

theorem compile_aligned_openOrders :
    openOrders.Tidy .select ∧ ∃ s, openOrders.compile .select = .ok s ∧
      s.text = "SELECT state, COUNT(*) FROM shop_orders LEFT JOIN (SELECT id FROM users WHERE age > ?) u "
        ++ "on u.id = user WHERE state in ( ?, ? ) OR note <> '?' AND size > ? GROUP BY state "
        ++ "HAVING COUNT(*) > ? * 2 LIMIT 10" ∧
      Closed s.text ∧ s.placeholders = s.binds.length ∧ s.layout = openOrders.layout .select ∧
      (openOrders.layout .select).values = s.binds :=
  ⟨tidy_openOrders, _, rfl, by decide +kernel, compile_aligned openOrders .select tidy_openOrders _ rfl⟩

end Draft

end SqlSession.Query
