/-
Words of a text, and their case.

Main results:
- `words_joinWith`: words with single spaces between them are the words of their text, and blanks around a text bring no
  words of their own (`words_trimmed`);
- `lower_eq_iff`: a text whose lower case is one of ASCII letters, none of them a k, has these letters in some case; the
  only letters beyond ASCII with such a lower case are the Kelvin sign, which gives a k, and a dotted capital I, which
  keeps its dot;
- `lower_singleSpaced_eq_iff`: so keywords can be compared word by word.
-/
import SqlSession.Text.Blank
import SqlSession.Text.Case
import Mathlib.Tactic

namespace SqlSession.Text

/-! ## Words -/

/-- a word behind a blank and in front of the end -/
theorem foldr_wordStep {cs : List Char} (h : ∀ c ∈ cs, isBlank c = false) (current : List Char)
    (done : List (List Char)) : cs.foldr wordStep (current, done) = (cs ++ current, done) := by
  induction cs with
  | nil => rfl
  | cons c cs ih =>
    have hc : isBlank c = false := h c List.mem_cons_self
    rw [List.foldr_cons, ih fun d hd => h d (List.mem_cons_of_mem c hd)]
    simp [wordStep, hc]

/-- the text is a single word -/
structure IsWord (word : String) : Prop where
  nonempty : word.toList ≠ []
  whole : ∀ c ∈ word.toList, isBlank c = false

instance (word : String) : Decidable (IsWord word) :=
  haveI : Decidable (∀ c ∈ word.toList, isBlank c = false) := List.decidableBAll (isBlank · = false) word.toList
  decidable_of_iff (word.toList ≠ [] ∧ ∀ c ∈ word.toList, isBlank c = false) ⟨fun h => ⟨h.1, h.2⟩, fun h => ⟨h.1, h.2⟩⟩

/-- a word in front of a blank -/
theorem words_cons {word : String} (h : IsWord word) (rest : String) :
    words (word ++ " " ++ rest) = word :: words rest := by
  have hblank : ∀ p : List Char × List (List Char),
      wordStep ' ' p = ([], if p.1.isEmpty then p.2 else p.1 :: p.2) := fun _ => rfl
  have hword : (word ++ " " ++ rest).toList.foldr wordStep ([], []) =
      (word.toList, let p := rest.toList.foldr wordStep ([], []); if p.1.isEmpty then p.2 else p.1 :: p.2) := by
    rw [String.toList_append, String.toList_append, List.foldr_append, List.foldr_append]
    show word.toList.foldr wordStep (wordStep ' ' (rest.toList.foldr wordStep ([], []))) = _
    rw [hblank, foldr_wordStep h.whole, List.append_nil]
  rw [words, hword]
  simp [words, h.nonempty]

theorem words_word {word : String} (h : IsWord word) : words word = [word] := by
  simp [words, foldr_wordStep h.whole, h.nonempty]

theorem words_joinWith {ws : List String} (h : ∀ w ∈ ws, IsWord w) : words (joinWith " " ws) = ws := by
  induction ws with
  | nil => rfl
  | cons w rest ih =>
    obtain ⟨hw, hrest⟩ := List.forall_mem_cons.1 h
    cases rest with
    | nil => exact words_word hw
    | cons u rest => rw [joinWith, words_cons hw, ih hrest]

/-- the words when nothing comes in front of the one that may be unfinished -/
def finished (p : List Char × List (List Char)) : List (List Char) :=
  if p.1.isEmpty then p.2 else p.1 :: p.2

theorem words_eq (s : String) : words s = (finished (s.toList.foldr wordStep ([], []))).map String.ofList := rfl

theorem wordStep_blank {c : Char} (hc : isBlank c = true) (p : List Char × List (List Char)) :
    wordStep c p = ([], finished p) := by
  obtain ⟨current, done⟩ := p
  simp [wordStep, hc, finished]

theorem wordStep_other {c : Char} (hc : isBlank c = false) (p : List Char × List (List Char)) :
    wordStep c p = (c :: p.1, p.2) := by
  obtain ⟨current, done⟩ := p
  simp [wordStep, hc]

/-- no blank comes into a word, and no word is empty -/
theorem isWord_of_mem_words {s w : String} (h : w ∈ words s) : IsWord w := by
  have hall : ∀ cs : List Char, (∀ c ∈ (cs.foldr wordStep ([], [])).1, isBlank c = false) ∧
      ∀ w ∈ finished (cs.foldr wordStep ([], [])), w ≠ [] ∧ ∀ c ∈ w, isBlank c = false := by
    intro cs
    induction cs with
    | nil => exact ⟨by simp, by simp [finished]⟩
    | cons c cs ih =>
      obtain ⟨hcurrent, hdone⟩ := ih
      rw [List.foldr_cons]
      cases hc : isBlank c with
      | true =>
        rw [wordStep_blank hc]
        exact ⟨by simp, by simpa [finished] using hdone⟩
      | false =>
        rw [wordStep_other hc]
        have hfirst : ∀ d ∈ c :: (cs.foldr wordStep ([], [])).1, isBlank d = false := by simpa [hc] using hcurrent
        refine ⟨hfirst, fun w hw => ?_⟩
        rcases List.mem_cons.1 (show w ∈ (c :: (cs.foldr wordStep ([], [])).1) :: _ from hw) with rfl | hw
        · exact ⟨by simp, hfirst⟩
        · refine hdone w ?_
          unfold finished
          split_ifs
          · exact hw
          · exact List.mem_cons_of_mem _ hw
  rw [words_eq, List.mem_map] at h
  obtain ⟨cs, hcs, rfl⟩ := h
  obtain ⟨hne, hwhole⟩ := (hall s.toList).2 cs hcs
  exact ⟨by simpa using hne, by simpa using hwhole⟩

/-! ## Blanks around a text -/

theorem finished_trimStart (cs : List Char) :
    finished ((trimStartChars cs).foldr wordStep ([], [])) = finished (cs.foldr wordStep ([], [])) := by
  induction cs with
  | nil => rfl
  | cons c cs ih =>
    by_cases hc : isBlank c = true
    · have htrim : trimStartChars (c :: cs) = trimStartChars cs := List.dropWhile_cons_of_pos hc
      rw [htrim, ih, List.foldr_cons, wordStep_blank hc]
      rfl
    · have htrim : trimStartChars (c :: cs) = c :: cs := List.dropWhile_cons_of_neg hc
      rw [htrim]

theorem foldr_blanks {cs : List Char} (h : ∀ c ∈ cs, isBlank c = true) : cs.foldr wordStep ([], []) = ([], []) := by
  induction cs with
  | nil => rfl
  | cons c cs ih =>
    obtain ⟨hc, hcs⟩ := List.forall_mem_cons.1 h
    rw [List.foldr_cons, ih hcs, wordStep_blank hc]
    rfl

theorem foldr_trimEnd (cs : List Char) :
    (trimEndChars cs).foldr wordStep ([], []) = cs.foldr wordStep ([], []) := by
  have hblank : ∀ c ∈ (cs.reverse.takeWhile isBlank).reverse, isBlank c = true := by
    intro c hc
    exact List.all_eq_true.1 List.all_takeWhile c (List.mem_reverse.1 hc)
  have hsplit : cs = trimEndChars cs ++ (cs.reverse.takeWhile isBlank).reverse := by
    rw [trimEndChars, ← List.reverse_append, List.takeWhile_append_dropWhile, List.reverse_reverse]
  conv_rhs => rw [hsplit]
  rw [List.foldr_append, foldr_blanks hblank]

theorem words_trimmed (s : String) : words (trimmed s) = words s := by
  rw [words_eq, words_eq, trimmed, String.toList_ofList, foldr_trimEnd, finished_trimStart]

/-! ## Case -/

namespace Case

/-- a character that is the lower case of no ASCII letter, but for a k -/
def Foreign (c : Char) : Prop := 0x80 ≤ c.toNat ∨ c = 'k'

instance (c : Char) : Decidable (Foreign c) := inferInstanceAs (Decidable (0x80 ≤ c.toNat ∨ c = 'k'))

/-- a run that leads from characters beyond ASCII to others; the Kelvin sign is a run of its own -/
def Shift.Safe (run : Shift) : Prop :=
  0x80 ≤ run.first + run.offset ∧ run.last + run.offset < 0xd800 ∨
    0xdfff < run.first + run.offset ∧ run.last + run.offset < 0x110000 ∨
      run.first = run.last ∧ Foreign (Char.ofNat (run.first + run.offset).toNat)

instance (run : Shift) : Decidable run.Safe := by
  unfold Shift.Safe
  infer_instance

theorem safe_lowerShifts : ∀ run ∈ lowerShifts, run.Safe := by decide +kernel

theorem foreign_lowerWords : ∀ entry ∈ lowerWords, ∃ n ∈ entry.2, Foreign (Char.ofNat n) := by decide +kernel

theorem toNat_ofNat_of_valid {n : Nat} (h : n.isValidChar) : (Char.ofNat n).toNat = n := by
  rw [Char.ofNat, dif_pos h]
  rfl

theorem foreign_shifted {run : Shift} (h : run.Safe) {code : Nat} (hc : run.covers code = true) :
    Foreign (Char.ofNat (code + run.offset).toNat) := by
  have hrange : run.first ≤ code ∧ code ≤ run.last := by
    simp only [Shift.covers, Bool.and_eq_true, decide_eq_true_eq] at hc
    exact hc.1
  rcases h with hlow | hhigh | ⟨hone, hforeign⟩
  · have hvalid : (code + run.offset).toNat.isValidChar := by
      left
      omega
    left
    rw [toNat_ofNat_of_valid hvalid]
    omega
  · have hvalid : (code + run.offset).toNat.isValidChar := by
      right
      omega
    left
    rw [toNat_ofNat_of_valid hvalid]
    omega
  · obtain rfl : code = run.first := by omega
    exact hforeign

/-- the lower case of a character beyond ASCII has something foreign in it -/
theorem foreign_lowerChar {c : Char} (hc : 0x80 ≤ c.toNat) : ∃ d ∈ lowerChar c, Foreign d := by
  rw [lowerChar, if_neg (by omega), mapped]
  split
  · next entry hentry =>
    obtain ⟨n, hn, hforeign⟩ := foreign_lowerWords entry (List.mem_of_find?_eq_some hentry)
    exact ⟨_, List.mem_map_of_mem hn, hforeign⟩
  · split
    · next run hrun =>
      have hsafe := safe_lowerShifts run (List.mem_of_find?_eq_some hrun)
      have hcovers := List.find?_some hrun
      exact ⟨_, List.mem_singleton_self _, foreign_shifted hsafe hcovers⟩
    · exact ⟨c, List.mem_singleton_self c, .inl hc⟩

theorem foreign_lowerFrom {cs : List Char} {c : Char} (hmem : c ∈ cs) (hc : 0x80 ≤ c.toNat) (before : List Char) :
    ∃ d ∈ lowerFrom before cs, Foreign d := by
  induction cs generalizing before with
  | nil => cases hmem
  | cons b cs ih =>
    rw [lowerFrom]
    rcases List.mem_cons.1 hmem with rfl | hmem
    · by_cases hsigma : c = 'Σ'
      · have hforeign : Foreign (sigma before cs) := by
          unfold sigma
          split <;> decide
        exact ⟨sigma before cs, by simp [hsigma], hforeign⟩
      · obtain ⟨d, hd, hforeign⟩ := foreign_lowerChar hc
        exact ⟨d, by simp [hsigma, hd], hforeign⟩
    · obtain ⟨d, hd, hforeign⟩ := ih hmem (b :: before)
      exact ⟨d, List.mem_append_right _ hd, hforeign⟩

/-- ASCII letters lose their case one by one -/
theorem lowerFrom_ascii {cs : List Char} (h : ∀ c ∈ cs, c.toNat < 0x80) (before : List Char) :
    lowerFrom before cs = cs.map Char.toLower := by
  induction cs generalizing before with
  | nil => rfl
  | cons c cs ih =>
    obtain ⟨hc, hcs⟩ := List.forall_mem_cons.1 h
    have hsigma : c ≠ 'Σ' := by
      rintro rfl
      revert hc
      decide
    rw [lowerFrom, ih hcs]
    simp [hsigma, lowerChar, hc]

/-- a letter that has a lower case, and the lower case it has -/
theorem toLower_cases (c : Char) :
    c.toLower = c ∨ (65 ≤ c.toNat ∧ c.toNat ≤ 90) ∧ c.toLower.toNat = c.toNat + 32 := by
  unfold Char.toLower
  split
  · next hupper =>
    have hrange : 65 ≤ c.toNat ∧ c.toNat ≤ 90 := ⟨UInt32.le_iff_toNat_le.1 hupper.1, UInt32.le_iff_toNat_le.1 hupper.2⟩
    refine .inr ⟨hrange, ?_⟩
    have hsum : (c.val + 32).toNat = (c.toNat + 32) % 2 ^ 32 := UInt32.toNat_add c.val 32
    exact hsum.trans (Nat.mod_eq_of_lt (by omega))
  · exact .inl rfl

end Case

open Case (Foreign)

/-- the lower case of ASCII letters alone, none of them a k -/
def Native (t : String) : Prop := ∀ c ∈ t.toList, ¬Foreign c

instance (t : String) : Decidable (Native t) := List.decidableBAll _ t.toList

theorem Native.append {s t : String} (hs : Native s) (ht : Native t) : Native (s ++ t) := by
  intro c hc
  rw [String.toList_append, List.mem_append] at hc
  exact hc.elim (hs c) (ht c)

/-- a text with such a lower case is written in ASCII letters -/
theorem lower_eq_iff {s t : String} (h : Native t) : lower s = t ↔ asciiLower s = t := by
  have hsame : (∀ c ∈ s.toList, c.toNat < 0x80) → lower s = asciiLower s := by
    intro hs
    rw [lower, asciiLower, Case.lowerFrom_ascii hs]
  constructor
  · intro hl
    rw [← hsame, hl]
    intro c hc
    by_contra hge
    obtain ⟨d, hd, hforeign⟩ := Case.foreign_lowerFrom hc (not_lt.1 hge) []
    refine h d ?_ hforeign
    rw [← hl, lower, String.toList_ofList]
    exact hd
  · intro ha
    rw [hsame, ha]
    intro c hc
    by_contra hge
    refine h c ?_ (.inl (not_lt.1 hge))
    have hfixed : c.toLower = c := (Case.toLower_cases c).resolve_right fun hupper => by omega
    rw [← ha, asciiLower, String.toList_ofList, ← hfixed]
    exact List.mem_map_of_mem hc

theorem asciiLower_joinWith (ws : List String) : asciiLower (joinWith " " ws) = joinWith " " (ws.map asciiLower) := by
  have happend : ∀ a b : String, asciiLower (a ++ b) = asciiLower a ++ asciiLower b := by
    intro a b
    simp [asciiLower]
  have hspace : asciiLower " " = " " := by decide
  induction ws with
  | nil => rfl
  | cons w rest ih =>
    cases rest with
    | nil => rfl
    | cons u rest =>
      rw [joinWith, happend, happend, hspace, ih]
      rfl

theorem not_blank_of_printing {c : Char} (h : 0x21 ≤ c.toNat ∧ c.toNat ≤ 0x7e) : isBlank c = false := by
  simp only [isBlank, inRanges, blankRanges, List.any_eq_false, Bool.and_eq_true, decide_eq_true_eq]
  intro range hr
  fin_cases hr <;> dsimp only <;> omega

theorem isBlank_toLower (c : Char) : isBlank c.toLower = isBlank c := by
  rcases Case.toLower_cases c with hsame | ⟨hupper, hlower⟩
  · rw [hsame]
  · rw [not_blank_of_printing (by omega), not_blank_of_printing (by omega)]

theorem isWord_asciiLower {w : String} (h : IsWord w) : IsWord (asciiLower w) := by
  refine ⟨by simpa [asciiLower] using h.nonempty, fun c hc => ?_⟩
  rw [asciiLower, String.toList_ofList, List.mem_map] at hc
  obtain ⟨d, hd, rfl⟩ := hc
  rw [isBlank_toLower]
  exact h.whole d hd

/-- **Keywords.** The words of a text with single spaces between them are keywords in lower case if and only if each word
is a keyword but for the case of its letters. -/
theorem lower_singleSpaced_eq_iff {ws : List String} (hw : ∀ w ∈ ws, IsWord w)
    (hf : Native (joinWith " " ws)) (s : String) :
    lower (singleSpaced s) = joinWith " " ws ↔ (words s).map asciiLower = ws := by
  have hlowered : ∀ w ∈ (words s).map asciiLower, IsWord w := by
    intro w hmem
    obtain ⟨u, hu, rfl⟩ := List.mem_map.1 hmem
    exact isWord_asciiLower (isWord_of_mem_words hu)
  rw [singleSpaced, lower_eq_iff hf, asciiLower_joinWith]
  constructor
  · intro heq
    rw [← words_joinWith hlowered, heq, words_joinWith hw]
  · intro heq
    rw [heq]

end SqlSession.Text
