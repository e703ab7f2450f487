/-
What conditions render to.

- `render_cases`: the ways in which a condition renders, by the kind of its operator;
- `renderAll_cons_ok`, `renderAll_visible`: rows of conditions, one at a time and without those that are unset.
-/
import SqlSession.Query.Condition
import Mathlib.Tactic

namespace SqlSession

theorem except_bind_ok {ε α β : Type} {x : Except ε α} {f : α → Except ε β} {b : β} :
    x >>= f = .ok b ↔ ∃ a, x = .ok a ∧ f a = .ok b := by
  cases x with
  | error e => simp [bind, Except.bind]
  | ok a => simp [bind, Except.bind]

end SqlSession

namespace SqlSession.Query.Condition

/-- the parts behind the field, of a condition whose list does not bring the values of the field -/
inductive Side (c : Condition) (parts : List Statement) : Prop where
  | membership (kind : c.kind = .membership) (parts : c.membershipParts = .ok parts)
  | range (kind : c.kind = .range) (parts : c.rangeParts = .ok parts)
  | existence (kind : c.kind = .existence) (parts : c.existenceParts = .ok parts)
  | other (kind : c.kind = .other) (list : ∀ items, c.comparand ≠ .list items) (parts : c.otherParts = parts)

theorem render_cases {c : Condition} {s : Statement} (h : c.render = .ok s) :
    (∃ items, c.kind = .other ∧ c.comparand = .list items ∧ s = ⟨c.field, items⟩) ∨
      ∃ parts, Side c parts ∧ s = .join " " (c.fieldParts ++ parts) := by
  unfold render at h
  split at h
  · next items hk hc => exact .inl ⟨items, hk, hc, (Except.ok.inj h).symm⟩
  · next hk hl => exact .inr ⟨c.otherParts, .other hk (fun items => hl items) rfl, (Except.ok.inj h).symm⟩
  · next hk =>
    obtain ⟨parts, hp, hs⟩ := except_bind_ok.1 h
    exact .inr ⟨parts, .membership hk hp, (Except.ok.inj hs).symm⟩
  · next hk =>
    obtain ⟨parts, hp, hs⟩ := except_bind_ok.1 h
    exact .inr ⟨parts, .range hk hp, (Except.ok.inj hs).symm⟩
  · next hk =>
    obtain ⟨parts, hp, hs⟩ := except_bind_ok.1 h
    exact .inr ⟨parts, .existence hk hp, (Except.ok.inj hs).symm⟩

/-! ## Rows -/

/-- the conditions that are not unset -/
def visible (conditions : List Condition) : List Condition :=
  conditions.filter fun c => !c.isUnset

/-- a rendered condition behind its connective -/
def link (c : Condition) (shown : Statement) : Statement :=
  .ofText (c.connective.text ++ " ") ++ shown

theorem renderAll_cons_ok {keep : Bool} {c : Condition} {rest : List Condition} {parts : List Statement}
    (hu : c.isUnset = false) :
    renderAll keep (c :: rest) = .ok parts ↔ ∃ shown others, c.render = .ok shown ∧
      renderAll true rest = .ok others ∧ parts = (if keep then c.link shown else shown) :: others := by
  rw [renderAll, hu, if_neg (by decide)]
  simp only [except_bind_ok, Except.ok.injEq]
  constructor
  · rintro ⟨shown, hs, others, ho, rfl⟩
    exact ⟨shown, others, hs, ho, rfl⟩
  · rintro ⟨shown, others, hs, ho, rfl⟩
    exact ⟨shown, hs, others, ho, rfl⟩

theorem renderAll_visible (keep : Bool) (conditions : List Condition) :
    renderAll keep conditions = renderAll keep (visible conditions) := by
  induction conditions generalizing keep with
  | nil => rfl
  | cons c rest ih =>
    cases hu : c.isUnset with
    | true => simp [renderAll, visible, hu, ih keep]
    | false => simp [renderAll, visible, hu, ih true]

end SqlSession.Query.Condition
