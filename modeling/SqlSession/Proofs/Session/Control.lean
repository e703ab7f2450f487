/-
Statements that control transactions.

`Control.ofText` reads them by their words, in any case and spacing, as a server does. The statements that connections
make of themselves are read as they are meant: `ofText_savepoint`, `ofText_rollbackTo`. Savepoints at different depths
have different names (`savepointName_inj`). A statement with another verb controls no transaction (`IsVerb.plain`).
-/
import SqlSession.Proofs.Scan.Layout
import SqlSession.Proofs.Text.Words
import SqlSession.Session.Transaction

namespace SqlSession

/-- what a statement does to transactions -/
inductive Control where
  | begin
  | commit
  | rollback
  | savepoint (name : String)
  | rollbackTo (name : String)
  | release (name : String)
  deriving DecidableEq, Repr

namespace Control

/-- the statement that the words make; a name comes last -/
def ofWords (words : List String) : Option Control :=
  match words.map Text.asciiUpper with
  | "BEGIN" :: _ => some begin
  | "START" :: "TRANSACTION" :: _ => some begin
  | "COMMIT" :: _ => some commit
  | "ROLLBACK" :: "TO" :: _ => words.getLast?.map rollbackTo
  | "ROLLBACK" :: _ => some rollback
  | "SAVEPOINT" :: _ => words.getLast?.map savepoint
  | "RELEASE" :: "SAVEPOINT" :: _ => words.getLast?.map release
  | _ => none

def ofText (text : String) : Option Control := ofWords (Text.words text)

/-- it begins or ends a whole transaction -/
def isBoundary : Control → Bool
  | begin => true
  | commit => true
  | rollback => true
  | _ => false

theorem ofText_begin : ofText "BEGIN" = some begin := by decide

theorem ofText_commit : ofText "COMMIT" = some commit := by decide

theorem ofText_rollback : ofText "ROLLBACK" = some rollback := by decide

/-- the words that statements about transactions begin with -/
def leads : List String := ["BEGIN", "START", "COMMIT", "ROLLBACK", "SAVEPOINT", "RELEASE"]

theorem ofWords_other {word : String} (h : Text.asciiUpper word ∉ leads) (words : List String) :
    ofWords (word :: words) = none := by
  simp only [leads, List.mem_cons, List.not_mem_nil, or_false, not_or] at h
  obtain ⟨hb, hs, hc, hr, hp, hl⟩ := h
  simp [ofWords, hb, hs, hc, hr, hp, hl]

end Control

/-- the text neither begins nor ends a whole transaction -/
def IsInner (text : String) : Prop := ∀ control ∈ Control.ofText text, control.isBoundary = false

/-- the text does not control transactions -/
def IsPlain (text : String) : Prop := Control.ofText text = none

instance (text : String) : Decidable (IsPlain text) := inferInstanceAs (Decidable (Control.ofText text = none))

theorem IsPlain.inner {text : String} (h : IsPlain text) : IsInner text := by
  intro control hc
  rw [h] at hc
  cases hc

/-! ## Names of savepoints -/

namespace Text

theorem isBlank_of_isDigit {c : Char} (h : c.isDigit = true) : isBlank c = false := by
  have hn : 48 ≤ c.toNat ∧ c.toNat ≤ 57 := by simpa [Char.isDigit, UInt32.le_iff_toNat_le] using h
  exact not_blank_of_printing (by omega)

end Text

namespace Op

theorem savepointName_inj {m n : Nat} (h : savepointName m = savepointName n) : m = n := by
  have hdigits : (toString m).toList = (toString n).toList := by
    simpa [savepointName] using congrArg String.toList h
  exact toString_inj (String.toList_inj.1 hdigits)

/-- a savepoint's name is one word -/
theorem isWord_savepointName (depth : Nat) : Text.IsWord (savepointName depth) := by
  have htrans : Text.IsWord "trans" := by decide
  refine ⟨?_, fun d hd => ?_⟩
  · rw [savepointName, String.toList_append]
    exact List.append_ne_nil_of_left_ne_nil htrans.nonempty _
  · rw [savepointName, String.toList_append] at hd
    rcases List.mem_append.1 hd with hd | hd
    · exact htrans.whole d hd
    · exact Text.isBlank_of_isDigit (isDigit_of_mem_toString hd)

end Op

namespace Control

theorem words_savepoint (depth : Nat) :
    Text.words ("SAVEPOINT " ++ Op.savepointName depth) = ["SAVEPOINT", Op.savepointName depth] := by
  rw [show "SAVEPOINT " = "SAVEPOINT" ++ " " from rfl, Text.words_cons (by decide),
    Text.words_word (Op.isWord_savepointName depth)]

theorem words_rollbackTo (depth : Nat) :
    Text.words ("ROLLBACK TO SAVEPOINT " ++ Op.savepointName depth) =
      ["ROLLBACK", "TO", "SAVEPOINT", Op.savepointName depth] := by
  rw [show "ROLLBACK TO SAVEPOINT " = "ROLLBACK" ++ " " ++ ("TO" ++ " " ++ ("SAVEPOINT" ++ " ")) from rfl]
  simp only [String.append_assoc]
  rw [← String.append_assoc, Text.words_cons (by decide), ← String.append_assoc, Text.words_cons (by decide),
    ← String.append_assoc, Text.words_cons (by decide), Text.words_word (Op.isWord_savepointName depth)]

theorem ofText_savepoint (depth : Nat) :
    ofText ("SAVEPOINT " ++ Op.savepointName depth) = some (savepoint (Op.savepointName depth)) := by
  have hword : Text.asciiUpper "SAVEPOINT" = "SAVEPOINT" := by decide
  rw [ofText, words_savepoint, ofWords]
  simp [hword]

theorem ofText_rollbackTo (depth : Nat) :
    ofText ("ROLLBACK TO SAVEPOINT " ++ Op.savepointName depth) = some (rollbackTo (Op.savepointName depth)) := by
  have hwords : ["ROLLBACK", "TO", "SAVEPOINT"].map Text.asciiUpper = ["ROLLBACK", "TO", "SAVEPOINT"] := by decide
  simp only [List.map_cons, List.map_nil, List.cons.injEq] at hwords
  rw [ofText, words_rollbackTo, ofWords]
  simp [hwords]

end Control

theorem inner_savepoint (depth : Nat) : IsInner ("SAVEPOINT " ++ Op.savepointName depth) := by
  intro control hc
  rw [Control.ofText_savepoint] at hc
  cases hc
  rfl

theorem inner_rollbackTo (depth : Nat) : IsInner ("ROLLBACK TO SAVEPOINT " ++ Op.savepointName depth) := by
  intro control hc
  rw [Control.ofText_rollbackTo] at hc
  cases hc
  rfl

/-- a word that leads no statement about transactions -/
def IsVerb (word : String) : Prop := Text.IsWord word ∧ Text.asciiUpper word ∉ Control.leads

instance (word : String) : Decidable (IsVerb word) :=
  inferInstanceAs (Decidable (Text.IsWord word ∧ Text.asciiUpper word ∉ Control.leads))

theorem IsVerb.plain {word : String} (h : IsVerb word) (rest : String) : IsPlain (word ++ " " ++ rest) := by
  obtain ⟨hword, hother⟩ := h
  rw [IsPlain, Control.ofText, Text.words_cons hword]
  exact Control.ofWords_other hother _

end SqlSession
