/-
Where a word occurs in the lower case of a text.

The lower case of a character beyond ASCII is one character of that kind, or an i with a dot on top of it. So a word of
ASCII letters that does not end in an i cannot come about there, and it occurs in the lower case of a text exactly where
the text has its letters in some case. Main results:
- `contains_iff`: the search finds a part if and only if it stands somewhere in the text;
- `lowered_cases`: what characters become in lower case;
- `contains_lower`: for such words only the letters A to Z matter.
-/
import SqlSession.Proofs.Text.Words

namespace SqlSession.Text

theorem occursIn_iff {part cs : List Char} : occursIn part cs = true ↔ part <:+: cs := by
  induction cs with
  | nil => simp [occursIn]
  | cons c cs ih => rw [occursIn, Bool.or_eq_true, ih, List.isPrefixOf_iff_prefix, List.infix_cons_iff]

theorem contains_iff {s part : String} : contains s part = true ↔ part.toList <:+: s.toList := occursIn_iff

namespace Case

/-- an i and a dot for on top of it -/
theorem entries_lowerWords : ∀ entry ∈ lowerWords, entry.2 = [0x69, 0x307] := by decide

/-- the lower case of a character between those already passed and the rest -/
def lowered (before : List Char) (c : Char) (rest : List Char) : List Char :=
  if c == 'Σ' then [sigma before rest] else lowerChar c

theorem lowerFrom_cons (before : List Char) (c : Char) (rest : List Char) :
    lowerFrom before (c :: rest) = lowered before c rest ++ lowerFrom (c :: before) rest := rfl

/-- an ASCII character becomes its own lower case, another one something foreign, if need be behind an i -/
theorem lowered_cases (before : List Char) (c : Char) (rest : List Char) :
    (c.toNat < 0x80 ∧ lowered before c rest = [c.toLower]) ∨
      (0x80 ≤ c.toNat ∧ ∃ d, Foreign d ∧ (lowered before c rest = [d] ∨ lowered before c rest = ['i', d])) := by
  unfold lowered
  by_cases hsigma : c = 'Σ'
  · subst hsigma
    refine .inr ⟨by decide, sigma before rest, ?_, .inl (if_pos rfl)⟩
    unfold sigma
    split <;> decide
  rw [if_neg (by simpa using hsigma), lowerChar]
  by_cases hc : c.toNat < 0x80
  · exact .inl ⟨hc, if_pos hc⟩
  rw [if_neg hc, mapped]
  refine .inr ⟨not_lt.1 hc, ?_⟩
  split
  · next entry hentry =>
    rw [entries_lowerWords entry (List.mem_of_find?_eq_some hentry)]
    exact ⟨Char.ofNat 0x307, by decide, .inr rfl⟩
  · split
    · next run hrun =>
      have hsafe := safe_lowerShifts run (List.mem_of_find?_eq_some hrun)
      have hcovers := List.find?_some hrun
      exact ⟨_, foreign_shifted hsafe hcovers, .inl rfl⟩
    · exact ⟨c, .inl (not_lt.1 hc), .inl rfl⟩

end Case

open Case (Foreign)

/-- ASCII letters, none of them a k and the last one no i -/
structure Unmistakable (word : List Char) : Prop where
  native : ∀ c ∈ word, ¬Foreign c
  ending : word.getLast? ≠ some 'i'

instance (word : List Char) : Decidable (Unmistakable word) :=
  haveI : Decidable (∀ c ∈ word, ¬Foreign c) := List.decidableBAll _ word
  decidable_of_iff ((∀ c ∈ word, ¬Foreign c) ∧ word.getLast? ≠ some 'i') ⟨fun h => ⟨h.1, h.2⟩, fun h => ⟨h.1, h.2⟩⟩

namespace Unmistakable

variable {word : List Char}

theorem tail {c : Char} {rest : List Char} (h : Unmistakable (c :: rest)) : Unmistakable rest := by
  refine ⟨fun d hd => h.native d (List.mem_cons_of_mem c hd), fun hlast => h.ending ?_⟩
  rw [List.getLast?_cons, hlast]
  rfl

theorem eq_nil_of_prefix (h : Unmistakable word) {d : Char} (hd : Foreign d) {cs : List Char} (hp : word <+: d :: cs) :
    word = [] := by
  cases word with
  | nil => rfl
  | cons c rest =>
    obtain ⟨rfl, -⟩ := List.cons_prefix_cons.1 hp
    exact absurd hd (h.native c List.mem_cons_self)

/-- nor is it the i in front of a dot, which it would have to end in -/
theorem eq_nil_of_prefix_dotted (h : Unmistakable word) {d : Char} (hd : Foreign d) {cs : List Char}
    (hp : word <+: 'i' :: d :: cs) : word = [] := by
  cases word with
  | nil => rfl
  | cons c rest =>
    obtain ⟨rfl, hrest⟩ := List.cons_prefix_cons.1 hp
    obtain rfl := h.tail.eq_nil_of_prefix hd hrest
    exact absurd rfl h.ending

/-- where the lower case of a text begins with the word, the text has its letters -/
theorem prefix_lowerFrom (h : Unmistakable word) (before cs : List Char) :
    word <+: Case.lowerFrom before cs ↔ word <+: cs.map Char.toLower := by
  induction cs generalizing word before with
  | nil => rfl
  | cons c cs ih =>
    by_cases hnil : word = []
    · simp [hnil]
    rw [Case.lowerFrom_cons, List.map_cons]
    rcases Case.lowered_cases before c cs with ⟨-, hl⟩ | ⟨hc, d, hd, hl⟩
    · obtain ⟨first, rest, rfl⟩ := List.exists_cons_of_ne_nil hnil
      rw [hl, List.singleton_append, List.cons_prefix_cons, List.cons_prefix_cons, ih h.tail]
    · have hfixed : c.toLower = c := (Case.toLower_cases c).resolve_right fun hupper => by omega
      rw [hfixed]
      refine iff_of_false (fun hp => hnil ?_) (fun hp => hnil (h.eq_nil_of_prefix (.inl hc) hp))
      rcases hl with hl | hl
      · exact h.eq_nil_of_prefix hd (by simpa [hl] using hp)
      · exact h.eq_nil_of_prefix_dotted hd (by simpa [hl] using hp)

/-- the word begins where a character begins -/
theorem infix_lowered (h : Unmistakable word) (before : List Char) (c : Char) (rest more : List Char) :
    word <:+: Case.lowered before c rest ++ more ↔
      word <+: Case.lowered before c rest ++ more ∨ word <:+: more := by
  rcases Case.lowered_cases before c rest with ⟨-, hl⟩ | ⟨-, d, hd, hl | hl⟩
  · rw [hl, List.singleton_append, List.infix_cons_iff]
  · rw [hl, List.singleton_append, List.infix_cons_iff]
  · rw [hl, List.cons_append, List.singleton_append, List.infix_cons_iff, List.infix_cons_iff]
    refine or_congr_right (or_iff_right_of_imp fun hp => ?_)
    rw [h.eq_nil_of_prefix hd hp]
    exact List.nil_infix

theorem infix_lowerFrom (h : Unmistakable word) (before cs : List Char) :
    word <:+: Case.lowerFrom before cs ↔ word <:+: cs.map Char.toLower := by
  induction cs generalizing before with
  | nil => rfl
  | cons c cs ih =>
    rw [Case.lowerFrom_cons, h.infix_lowered, ← Case.lowerFrom_cons, h.prefix_lowerFrom, ih, List.map_cons,
      List.infix_cons_iff]

end Unmistakable

/-- **Words in lower case.** A word occurs in the lower case of a text if and only if the text has its letters in some
case. -/
theorem contains_lower {word : String} (h : Unmistakable word.toList) (s : String) :
    contains (lower s) word = contains (asciiLower s) word := by
  rw [Bool.eq_iff_iff, contains_iff, contains_iff, lower, asciiLower, String.toList_ofList, String.toList_ofList]
  exact h.infix_lowerFrom [] s.toList

end SqlSession.Text
