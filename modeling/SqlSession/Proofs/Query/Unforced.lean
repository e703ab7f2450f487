/-
When a change of rows that is not forced is held to some of them.

An update or a deletion without `force` is refused unless some condition of WHERE is not unset. But the conditions that
are not unset may come to a blank text, and a text that is empty brings no WHERE. Main results:
- `Condition.blank_render`: the conditions whose text is blank are those of `Vacuous`;
- `Condition.blank_chain`: a row of conditions is blank if and only if it consists of one vacuous condition;
- `Draft.holds_unforced`: an unforced change is the change of the whole table with the conditions between, and they are
  blank if and only if the draft is vacuous.
-/
import SqlSession.Proofs.Query.Command

namespace SqlSession

/-- the text has nothing but blanks -/
def IsBlank (text : String) : Prop := ∀ c ∈ text.toList, Text.isBlank c = true

instance (text : String) : Decidable (IsBlank text) := List.decidableBAll _ text.toList

theorem isBlank_append {a b : String} : IsBlank (a ++ b) ↔ IsBlank a ∧ IsBlank b := by
  simp [IsBlank, or_imp, forall_and]

theorem isBlank_joinWith {texts : List String} : IsBlank (Text.joinWith " " texts) ↔ ∀ text ∈ texts, IsBlank text := by
  induction texts with
  | nil => simp [Text.joinWith, IsBlank]
  | cons s rest ih =>
    cases rest with
    | nil => simp [Text.joinWith]
    | cons t rest =>
      have hspace : IsBlank " " := by decide
      rw [Text.joinWith, isBlank_append, isBlank_append, ih, List.forall_mem_cons]
      simp [hspace]

namespace Query

/-- every operand but an expression has characters of its own -/
theorem blank_operand {column : String} {value : Operand} (h : IsBlank (value.render column).text) :
    ∃ expression binds, value = .func expression binds ∧ IsBlank expression := by
  cases value with
  | bind value => exact absurd h (show ¬IsBlank "?" by decide)
  | step target amount =>
    have hsign : ¬IsBlank " - " ∧ ¬IsBlank " + " := by decide
    have hs : IsBlank (if amount < 0 then quoteColumn (target.getD column) ++ " - " ++ toString amount.natAbs
        else quoteColumn (target.getD column) ++ " + " ++ toString amount) := h
    split_ifs at hs
    · exact absurd (isBlank_append.1 (isBlank_append.1 hs).1).2 hsign.1
    · exact absurd (isBlank_append.1 (isBlank_append.1 hs).1).2 hsign.2
  | func expression binds => exact ⟨expression, binds, rfl, h⟩
  | negation name =>
    have hmark : ¬IsBlank "!" := by decide
    cases name with
    | none => exact absurd (isBlank_append.1 h).1 hmark
    | some name => exact absurd (isBlank_append.1 h).1 hmark
  | sub query => exact absurd (isBlank_append.1 (isBlank_append.1 (isBlank_append.1 h).1).1).1 (by decide)

namespace Condition

/-- a condition that is not unset and still says nothing: a blank field alone, with a list of values at most, or in
front of a blank expression that nothing compares it with -/
def Vacuous (c : Condition) : Prop :=
  c.kind = .other ∧ IsBlank c.field ∧
    match c.comparand with
    | .list _ => True
    | .operand (.func expression _) => IsBlank c.trimmedOperator ∧ IsBlank expression
    | _ => False

theorem not_blank_membership {c : Condition} {parts : List Statement} (h : c.membershipParts = .ok parts) :
    ¬∀ p ∈ parts, IsBlank p.text := by
  have hopen : ¬IsBlank "(" ∧ ¬IsBlank "( " := by decide
  intro hall
  unfold membershipParts at h
  split at h
  · cases h
  · cases h
    have hp := hall ⟨_, _⟩ (List.mem_cons_of_mem _ List.mem_cons_self)
    exact hopen.2 (isBlank_append.1 (isBlank_append.1 hp).1).1
  · cases h
    have hp := hall (SubQuery.enclosed _) (List.mem_cons_of_mem _ List.mem_cons_self)
    exact hopen.1 (isBlank_append.1 (isBlank_append.1 hp).1).1
  · cases h
    have hp := hall (_ ++ _) (List.mem_cons_of_mem _ List.mem_cons_self)
    exact hopen.2 (isBlank_append.1 (isBlank_append.1 hp).1).1
  · cases h

theorem not_blank_range {c : Condition} {parts : List Statement} (h : c.rangeParts = .ok parts) :
    ¬∀ p ∈ parts, IsBlank p.text := by
  intro hall
  unfold rangeParts at h
  split at h
  · cases h
    have hp := hall ⟨_, _⟩ List.mem_cons_self
    exact absurd (isBlank_append.1 hp).2 (by decide)
  · cases h

theorem not_blank_existence {c : Condition} {parts : List Statement} (h : c.existenceParts = .ok parts) :
    ¬∀ p ∈ parts, IsBlank p.text := by
  intro hall
  unfold existenceParts at h
  split at h
  · cases h
    have hp := hall (SubQuery.render _) (List.mem_cons_of_mem _ List.mem_cons_self)
    exact absurd (isBlank_append.1 (isBlank_append.1 (isBlank_append.1 hp).1).1).1 (by decide)
  · cases h

/-- of operators of no special kind, only one that is blank in front of a blank expression leaves nothing to see -/
theorem blank_other {c : Condition} (hu : c.isUnset = false) (hl : ∀ items, c.comparand ≠ .list items) :
    (∀ p ∈ c.otherParts, IsBlank p.text) ↔
      ∃ expression binds, c.comparand = .operand (.func expression binds) ∧
        IsBlank c.trimmedOperator ∧ IsBlank expression := by
  cases hc : c.comparand with
  | operand value =>
    simp only [otherParts, hc, List.forall_mem_cons, List.not_mem_nil, false_implies, implies_true, and_true]
    constructor
    · rintro ⟨hop, hv⟩
      obtain ⟨expression, binds, rfl, he⟩ := blank_operand hv
      exact ⟨expression, binds, rfl, hop, he⟩
    · rintro ⟨expression, binds, heq, hop, he⟩
      cases heq
      exact ⟨hop, he⟩
  | list items => exact absurd hc (hl items)
  | null =>
    have hnull : ¬IsBlank " NULL" := by decide
    simp only [otherParts, hc, List.forall_mem_singleton, reduceCtorEq, false_and, exists_false, iff_false]
    exact fun hp => hnull (isBlank_append.1 hp).2
  | unset => simp [isUnset, hc] at hu

/-- the parts behind the field are blank only in front of a blank expression -/
theorem blank_side {c : Condition} {parts : List Statement} (h : c.Side parts) (hu : c.isUnset = false) :
    (∀ p ∈ parts, IsBlank p.text) ↔
      c.kind = .other ∧ ∃ expression binds, c.comparand = .operand (.func expression binds) ∧
        IsBlank c.trimmedOperator ∧ IsBlank expression := by
  cases h with
  | membership hk hp => simp [not_blank_membership hp, hk]
  | range hk hp => simp [not_blank_range hp, hk]
  | existence hk hp => simp [not_blank_existence hp, hk]
  | other hk hl hp =>
    rw [← hp, blank_other hu hl]
    simp [hk]

theorem Side.kept {c : Condition} {parts : List Statement} (h : c.Side parts) {items : List Datum}
    (hc : c.comparand = .list items) : c.kind ≠ .other := by
  cases h with
  | other _ hl _ => exact absurd hc (hl items)
  | _ hk _ => rw [hk]; decide

/-- **Blank conditions.** A condition that renders has a blank text if and only if it is vacuous. -/
theorem blank_render {c : Condition} (hu : c.isUnset = false) {s : Statement} (h : c.render = .ok s) :
    IsBlank s.text ↔ c.Vacuous := by
  rcases render_cases h with ⟨items, hk, hc, rfl⟩ | ⟨parts, hside, rfl⟩
  · simp [Vacuous, hk, hc]
  have hfield : (∀ p ∈ c.fieldParts, IsBlank p.text) ↔ IsBlank c.field := by
    unfold fieldParts
    split
    · next he => simp [IsBlank, String.isEmpty_iff.1 he]
    · rw [List.forall_mem_singleton]
      exact Iff.rfl
  have htext : IsBlank (Statement.join " " (c.fieldParts ++ parts)).text ↔
      IsBlank c.field ∧ ∀ p ∈ parts, IsBlank p.text := by
    rw [← hfield, ← List.forall_mem_append]
    exact isBlank_joinWith.trans List.forall_mem_map
  rw [htext, blank_side hside hu]
  unfold Vacuous
  constructor
  · rintro ⟨hf, hk, expression, binds, hc, hop, he⟩
    rw [hc]
    exact ⟨hk, hf, hop, he⟩
  · rintro ⟨hk, hf, hm⟩
    split at hm
    · next items hc => exact absurd hk (hside.kept hc)
    · next expression binds hc => exact ⟨hf, hk, expression, binds, hc, hm⟩
    · exact hm.elim

theorem not_blank_link (c : Condition) (shown : Statement) : ¬IsBlank (c.link shown).text := by
  intro h
  have hword : ¬IsBlank (c.connective.text ++ " ") := by cases c.connective <;> decide
  exact hword (isBlank_append.1 h).1

/-- **Blank rows of conditions.** What is left of a row without its unset conditions is blank if and only if it is one
vacuous condition; a second one would bring its connective. -/
theorem blank_chain {conditions : List Condition} (hne : visible conditions ≠ []) {body : Statement}
    (h : chain false conditions = .ok body) :
    IsBlank body.text ↔ ∃ c, visible conditions = [c] ∧ c.Vacuous := by
  obtain ⟨parts, hp, hb⟩ := except_bind_ok.1 h
  cases hb
  rw [renderAll_visible] at hp
  have hu : ∀ c ∈ visible conditions, c.isUnset = false := fun c hc => by
    simpa using (List.mem_filter.1 hc).2
  have hbody : IsBlank (Statement.join " " parts).text ↔ ∀ p ∈ parts, IsBlank p.text :=
    isBlank_joinWith.trans List.forall_mem_map
  rw [hbody]
  generalize visible conditions = shown at hne hp hu
  cases shown with
  | nil => exact absurd rfl hne
  | cons c rest =>
    obtain ⟨first, others, hf, ho, rfl⟩ := (renderAll_cons_ok (hu c List.mem_cons_self)).1 hp
    cases rest with
    | nil =>
      cases ho
      simpa using blank_render (hu c List.mem_cons_self) hf
    | cons d rest =>
      have hd : d.isUnset = false := hu d (List.mem_cons_of_mem _ List.mem_cons_self)
      obtain ⟨second, more, -, -, rfl⟩ := (renderAll_cons_ok hd).1 ho
      simp [not_blank_link]

end Condition

/-! ## Statements -/

/-- a change of rows that were there before -/
inductive Mutation where
  | update (row : Row)
  | delete

def Mutation.command (force : Bool) : Mutation → Command
  | update row => .update row force
  | delete => .delete force

namespace Draft

/-- the draft without its conditions of WHERE -/
def unfiltered (d : Draft) : Draft := { d with wheres := [] }

/-- the only condition of WHERE that is not unset is vacuous -/
def Vacuous (d : Draft) : Prop :=
  ∃ c, Condition.visible d.wheres = [c] ∧ c.Vacuous

/-- the statement is the forced one for all rows, with the conditions of WHERE somewhere between its parts, and the
conditions are not blank -/
def Holds (d : Draft) (m : Mutation) (s : Statement) : Prop :=
  ∃ front back whole body,
    d.unfiltered.compile (m.command true) = .ok whole ∧ whole.text = Text.joinWith " " (front ++ back) ∧
      Condition.chain false d.wheres = .ok body ∧ ¬IsBlank body.text ∧
      s.text = Text.joinWith " " (front ++ ["WHERE " ++ body.text] ++ back)

/-- the conditions of WHERE among the parts of a statement -/
def whereParts (body : Statement) : List String :=
  if body.text.isEmpty then [] else ["WHERE " ++ body.text]

theorem parts_conditionSection {conditions : List Condition} {sec : Section}
    (h : conditionSection "WHERE" conditions = .ok sec) :
    ∃ body, Condition.chain false conditions = .ok body ∧ sec.parts = whereParts body := by
  obtain ⟨body, hb, hs⟩ := except_bind_ok.1 h
  refine ⟨body, hb, ?_⟩
  rw [← Except.ok.inj hs]
  unfold whereParts
  by_cases he : body.text.isEmpty
  · rw [if_pos he, if_pos he, Section.ofBody, if_pos he]
  · have hne : (Statement.ofText ("WHERE" ++ " ") ++ body).text.isEmpty = false := by
      show (("WHERE" ++ " ") ++ body.text).isEmpty = false
      simp
    rw [if_neg he, if_neg he, Section.ofBody, hne]
    rfl

/-- an unforced change is not compiled without a condition that is not unset -/
theorem visible_of_unforced {d : Draft} {m : Mutation} {s : Statement}
    (h : d.compile (m.command false) = .ok s) : Condition.visible d.wheres ≠ [] := by
  have hw : d.hasEffectiveWhere = true := by
    obtain ⟨hc, -⟩ := compile_eq_ok.1 h
    cases hw : d.hasEffectiveWhere with
    | true => rfl
    | false => cases m <;> simp [Mutation.command, Command.check, hw] at hc
  intro hv
  obtain ⟨c, hc, hu⟩ := List.any_eq_true.1 hw
  have hm : c ∈ Condition.visible d.wheres := List.mem_filter.2 ⟨hc, hu⟩
  rw [hv] at hm
  cases hm

/-- the change of all rows is compiled along with any other -/
theorem compile_unfiltered {d : Draft} {m : Mutation} {s : Statement} (h : d.compile (m.command false) = .ok s) :
    ∃ front back whole body,
      d.unfiltered.compile (m.command true) = .ok whole ∧ whole.text = Text.joinWith " " (front ++ back) ∧
        Condition.chain false d.wheres = .ok body ∧ s.text = Text.joinWith " " (front ++ whereParts body ++ back) := by
  obtain ⟨hcheck, table, ht, hs⟩ := compile_eq_ok.1 h
  obtain ⟨r, rfl⟩ := assemble_eq_ok.1 hs
  obtain ⟨body, hb, hparts⟩ := parts_conditionSection r.wheres_ok
  let all : Rendered d.unfiltered (m.command true).data :=
    ⟨r.joins, ⟨[], []⟩, r.havings, r.duplicate, r.joins_ok, rfl, r.havings_ok, by cases m <;> exact r.duplicate_ok⟩
  have hforced : (m.command true).check d.unfiltered = .ok () := by
    cases m with
    | update row =>
      simp only [Mutation.command, Command.check] at hcheck ⊢
      split at hcheck
      · cases hcheck
      · simpa using hcheck
    | delete => rfl
  have hhead : (m.command true).head d.unfiltered table = (m.command false).head d table := by cases m <;> rfl
  refine ⟨(m.command false).head d table ++ r.front.parts, r.back.parts, _, body,
    compile_eq_ok.2 ⟨hforced, table, ht, assemble_eq_ok.2 ⟨all, rfl⟩⟩, ?_, hb, ?_⟩
  · show Text.joinWith " " ((m.command true).head d.unfiltered table ++ all.front.parts ++ [] ++ all.back.parts) = _
    rw [hhead, List.append_nil]
    cases m <;> rfl
  · show Text.joinWith " " ((m.command false).head d table ++ r.front.parts ++ r.wheres.parts ++ r.back.parts) = _
    rw [hparts]

/-- an unforced change is held to some rows unless the draft is vacuous -/
theorem holds_unforced {d : Draft} {m : Mutation} {s : Statement} (h : d.compile (m.command false) = .ok s) :
    d.Holds m s ↔ ¬d.Vacuous := by
  obtain ⟨front, back, whole, body, hwhole, htext, hb, hs⟩ := compile_unfiltered h
  have hblank : IsBlank body.text ↔ d.Vacuous := Condition.blank_chain (visible_of_unforced h) hb
  constructor
  · rintro ⟨_, _, _, body', _, _, hb', hn, _⟩ hv
    cases hb.symm.trans hb'
    exact hn (hblank.2 hv)
  · intro hv
    have hn : ¬IsBlank body.text := fun hbl => hv (hblank.1 hbl)
    have he : ¬body.text.isEmpty := by
      intro he
      rw [String.isEmpty_iff.1 he] at hn
      exact hn (by decide)
    refine ⟨front, back, whole, body, hwhole, htext, hb, hn, ?_⟩
    rw [hs, whereParts, if_neg he]

end Draft

end Query

end SqlSession
