/-
Walks along the bytes of a statement.

Placeholders can also be found with an index into the bytes. Such a walk looks up to two bytes ahead and now and then
takes one more. `walk` lists the bytes that are placeholders, and `refill` copies a text while it puts values in their
place; it fails if a piece that it copies does not begin and end between two characters.
- `step_bounds`: every turn goes on, and none past the end;
- `lingers_inside`: between quotes a walk stays between them;
- `walk_row`, `found_text`: a walk finds the placeholders of a row of tokens, and it ends outside quotes and comments
  where a scan does;
- `refill_text`: values come in the place of the first placeholders of the walk, and the pieces are copied between
  characters;
- `walks_compose`: both walks agree, and parts with a space between them can be walked one by one.
-/
import SqlSession.Proofs.Scan.Tokens

namespace SqlSession

open String (utf8Len utf8Len_cons utf8Len_append utf8Len_nil utf8EncodeChar)

def Quote.byte (q : Quote) : UInt8 := q.mark.toUInt8

def Quote.ofByte? (b : UInt8) : Option Quote :=
  if b = Quote.single.byte then some .single
  else if b = Quote.double.byte then some .double
  else if b = Quote.backtick.byte then some .backtick
  else none

namespace Walk

/-! ## The walks -/

inductive Place where
  | normal
  | quoted (quote : Quote)
  | line
  | block
  deriving DecidableEq, Repr

def isBlank (b : UInt8) : Bool :=
  b == ' '.toUInt8 || b == '\t'.toUInt8 || b == '\n'.toUInt8 || b == '\x0c'.toUInt8 || b == '\r'.toUInt8

/-- a byte in front of others opens a comment that ends with the line -/
def opensLine (b : UInt8) (rest : List UInt8) : Bool :=
  b == '#'.toUInt8 || (b == '-'.toUInt8 && rest[0]? == some '-'.toUInt8 && rest[1]?.all isBlank)

/-- the place behind a byte in front of others, and the number of bytes that are taken besides -/
def step (place : Place) (b : UInt8) (rest : List UInt8) : Place × Nat :=
  match place with
  | .normal =>
    match Quote.ofByte? b with
    | some q => (.quoted q, 0)
    | none =>
      if opensLine b rest then (.line, 0)
      else if b = '/'.toUInt8 ∧ rest[0]? = some '*'.toUInt8 then (.block, 1)
      else (.normal, 0)
  | .quoted q =>
    if b = '\\'.toUInt8 ∧ q.hasEscapes then (.quoted q, if rest.isEmpty then 0 else 1)
    else if b = q.byte then if rest[0]? = some q.byte then (.quoted q, 1) else (.normal, 0)
    else (.quoted q, 0)
  | .line => (if b = '\n'.toUInt8 then .normal else .line, 0)
  | .block => if b = '*'.toUInt8 ∧ rest[0]? = some '/'.toUInt8 then (.normal, 1) else (.block, 0)

/-- the placeholders from a byte on, and the place at the end -/
def walk (bytes : List UInt8) (place : Place) (i : Nat) : List Nat × Place :=
  if h : i < bytes.length then
    if place = .normal ∧ bytes[i] = '?'.toUInt8 then
      let (marks, last) := walk bytes place (i + 1)
      (i :: marks, last)
    else
      let (next, extra) := step place bytes[i] (bytes.drop (i + 1))
      walk bytes next (i + 1 + extra)
  else ([], place)
termination_by bytes.length - i

/-- the bytes from one index up to another, if both are between characters -/
def slice? (text : String) (start stop : Nat) : Option String :=
  if start ≤ stop ∧ String.Pos.Raw.IsValid text ⟨start⟩ ∧ String.Pos.Raw.IsValid text ⟨stop⟩ then
    some (String.Pos.Raw.extract text ⟨start⟩ ⟨stop⟩)
  else none

def bytes (text : String) : List UInt8 := text.toByteArray.data.toList

/-- the placeholders that are replaced from a byte on, and the text; all in front of `copied` is in `out` -/
def refillFrom (text : String) (place : Place) (values : List Datum) (copied i : Nat) (out : String) :
    Option (List Nat × String) :=
  if h : i < (bytes text).length then
    if place = .normal ∧ (bytes text)[i] = '?'.toUInt8 then
      match values with
      | [] => refillFrom text place [] copied (i + 1) out
      | value :: values => do
        let piece ← slice? text copied i
        let (marks, filled) ← refillFrom text place values (i + 1) (i + 1) (out ++ piece ++ value.literal)
        some (i :: marks, filled)
    else
      let (next, extra) := step place (bytes text)[i] ((bytes text).drop (i + 1))
      refillFrom text next values copied (i + 1 + extra) out
  else do
    let piece ← slice? text copied (bytes text).length
    some ([], out ++ piece)
termination_by (bytes text).length - i

/-- without values the text is not walked at all -/
def refill (text : String) (values : List Datum) : Option (List Nat × String) :=
  if values.isEmpty then some ([], text) else refillFrom text .normal values 0 0 ""

/-! ## Turns -/

theorem step_extra (place : Place) (b : UInt8) (rest : List UInt8) : (step place b rest).2 ≤ rest.length := by
  unfold step
  cases rest <;> (repeat' split) <;> simp_all

/-- **Every turn goes on, and none past the end**, whatever the bytes are. -/
theorem step_bounds (bytes : List UInt8) (place : Place) {i : Nat} (h : i < bytes.length) :
    i < i + 1 + (step place bytes[i] (bytes.drop (i + 1))).2 ∧
      i + 1 + (step place bytes[i] (bytes.drop (i + 1))).2 ≤ bytes.length := by
  have hrest := step_extra place bytes[i] (bytes.drop (i + 1))
  rw [List.length_drop] at hrest
  omega

/-- a walk from one index goes on from another, behind these placeholders -/
def Leads (bytes : List UInt8) (place : Place) (i : Nat) (marks : List Nat) (next : Place) (j : Nat) : Prop :=
  walk bytes place i = (marks ++ (walk bytes next j).1, (walk bytes next j).2)

theorem Leads.refl (bytes : List UInt8) (place : Place) (i : Nat) : Leads bytes place i [] place i := rfl

theorem Leads.trans {bytes : List UInt8} {p q r : Place} {i j k : Nat} {marks others : List Nat}
    (h : Leads bytes p i marks q j) (h' : Leads bytes q j others r k) : Leads bytes p i (marks ++ others) r k := by
  rw [Leads, h, h', List.append_assoc]

theorem Leads.quiet {bytes : List UInt8} {p q r : Place} {i j k : Nat} {marks : List Nat}
    (h : Leads bytes p i [] q j) (h' : Leads bytes q j marks r k) : Leads bytes p i marks r k := h.trans h'

theorem walk_end {bytes : List UInt8} {i : Nat} (h : bytes.drop i = []) (place : Place) :
    walk bytes place i = ([], place) := by
  rw [walk, dif_neg (Nat.not_lt.2 (List.drop_eq_nil_iff.1 h))]

theorem at_of_drop {bytes rest : List UInt8} {b : UInt8} {i : Nat} (h : bytes.drop i = b :: rest) :
    ∃ hi : i < bytes.length, bytes[i] = b ∧ bytes.drop (i + 1) = rest := by
  have hi : i < bytes.length := by
    by_contra hi
    rw [List.drop_eq_nil_of_le (Nat.not_lt.1 hi)] at h
    cases h
  rw [List.drop_eq_getElem_cons hi] at h
  exact ⟨hi, List.cons.inj h⟩

theorem leads_placeholder {bytes rest : List UInt8} {i : Nat} (h : bytes.drop i = '?'.toUInt8 :: rest) :
    Leads bytes .normal i [i] .normal (i + 1) := by
  obtain ⟨hi, hb, -⟩ := at_of_drop h
  rw [Leads, walk, dif_pos hi, if_pos ⟨rfl, hb⟩]
  rfl

theorem leads_step {bytes rest : List UInt8} {b : UInt8} {i extra : Nat} {place next : Place}
    (h : bytes.drop i = b :: rest) (hp : ¬(place = .normal ∧ b = '?'.toUInt8))
    (hstep : step place b rest = (next, extra)) : Leads bytes place i [] next (i + 1 + extra) := by
  obtain ⟨hi, rfl, rfl⟩ := at_of_drop h
  rw [Leads, walk, dif_pos hi, if_neg hp, hstep]
  rfl

/-- turns that begin and end in one place, from one index to another, and no placeholder among them -/
inductive Lingers (bytes : List UInt8) (place : Place) : Nat → Nat → Prop
  | refl (i : Nat) : Lingers bytes place i i
  | turn {i j extra : Nat} (h : i < bytes.length) (other : ¬(place = .normal ∧ bytes[i] = '?'.toUInt8))
      (same : step place bytes[i] (bytes.drop (i + 1)) = (place, extra))
      (rest : Lingers bytes place (i + 1 + extra) j) : Lingers bytes place i j

namespace Lingers

variable {bytes : List UInt8} {place : Place} {i j k : Nat}

theorem trans (h : Lingers bytes place i j) (h' : Lingers bytes place j k) : Lingers bytes place i k := by
  induction h with
  | refl i => exact h'
  | turn h other same rest ih => exact .turn h other same (ih h')

theorem of_drop {rest : List UInt8} {b : UInt8} {extra : Nat} (h : bytes.drop i = b :: rest)
    (other : ¬(place = .normal ∧ b = '?'.toUInt8)) (same : step place b rest = (place, extra)) :
    Lingers bytes place i (i + 1 + extra) := by
  obtain ⟨hi, rfl, rfl⟩ := at_of_drop h
  exact .turn hi other same (.refl _)

theorem leads (h : Lingers bytes place i j) : Leads bytes place i [] place j := by
  induction h with
  | refl i => exact .refl bytes place i
  | turn h other same rest ih => exact (leads_step (List.drop_eq_getElem_cons h) other same).quiet ih

end Lingers

/-! ## Characters as bytes -/

theorem toNat_toUInt8 {c : Char} (h : c.toNat ≤ 127) : c.toUInt8.toNat = c.toNat := by
  have hmod : c.toUInt8.toNat = c.toNat % 256 := rfl
  omega

/-- a character is a byte of its own, or bytes none of which is one -/
theorem exists_bytes (c : Char) : ∃ b more, utf8EncodeChar c = b :: more ∧
    (∀ d : Char, d.toNat ≤ 127 → (b = d.toUInt8 ↔ c = d)) ∧ (∀ x ∈ more, 127 < x.toNat) ∧
      (c.toNat ≤ 127 → more = []) := by
  have hvalue : c.val.toNat = c.toNat := rfl
  have hlarge : ∀ {b : UInt8}, 127 < b.toNat → ¬c.toNat ≤ 127 →
      ∀ d : Char, d.toNat ≤ 127 → (b = d.toUInt8 ↔ c = d) := by
    intro b hb hc d hd
    have hd' := toNat_toUInt8 hd
    constructor
    · rintro rfl
      omega
    · rintro rfl
      omega
  unfold utf8EncodeChar
  dsimp only
  rw [hvalue]
  split_ifs with h1 h2 h3
  · refine ⟨_, [], rfl, fun d hd => ⟨fun h => ?_, fun h => ?_⟩, by simp, fun _ => rfl⟩
    · have heq : (UInt8.ofNat c.toNat).toNat = d.toNat := by rw [h, toNat_toUInt8 hd]
      rw [UInt8.toNat_ofNat'] at heq
      exact Char.toNat_inj.1 (by omega)
    · subst h
      rfl
  · refine ⟨_, _, rfl, hlarge ?_ h1, ?_, fun h => absurd h h1⟩ <;> simp
    all_goals omega
  · refine ⟨_, _, rfl, hlarge ?_ h1, ?_, fun h => absurd h h1⟩ <;> simp
    all_goals omega
  · refine ⟨_, _, rfl, hlarge ?_ h1, ?_, fun h => absurd h h1⟩ <;> simp
    all_goals omega

theorem utf8EncodeChar_ascii {c : Char} (h : c.toNat ≤ 127) : utf8EncodeChar c = [c.toUInt8] := by
  obtain ⟨b, more, hc, hiff, -, hmore⟩ := exists_bytes c
  rw [hc, hmore h, (hiff c h).2 rfl]

def encode (cs : List Char) : List UInt8 := cs.flatMap utf8EncodeChar

theorem encode_cons (c : Char) (cs : List Char) : encode (c :: cs) = utf8EncodeChar c ++ encode cs :=
  List.flatMap_cons

theorem encode_append (cs ds : List Char) : encode (cs ++ ds) = encode cs ++ encode ds := List.flatMap_append

theorem length_encode (cs : List Char) : (encode cs).length = utf8Len cs := by
  induction cs with
  | nil => rfl
  | cons c cs ih => rw [encode_cons, List.length_append, ih, String.length_utf8EncodeChar, utf8Len_cons, Nat.add_comm]

theorem bytes_eq (text : String) : bytes text = encode text.toList := by
  have h : text.toList.utf8Encode = text.toByteArray := String.utf8Encode_toList
  rw [bytes, ← h]
  simp [List.utf8Encode, encode]

theorem head_encode (cs : List Char) {d : Char} (hd : d.toNat ≤ 127) :
    (encode cs)[0]? = some d.toUInt8 ↔ cs.head? = some d := by
  cases cs with
  | nil => simp [encode]
  | cons c cs =>
    obtain ⟨b, more, hc, hiff, -, -⟩ := exists_bytes c
    rw [encode_cons, hc]
    simpa using hiff d hd

theorem blank_encode (cs : List Char) :
    (encode cs)[0]?.all isBlank = true ↔ ∀ c ∈ cs.head?, Text.isAsciiBlank c = true := by
  cases cs with
  | nil => simp [encode]
  | cons c cs =>
    obtain ⟨b, more, hc, hiff, -, -⟩ := exists_bytes c
    rw [encode_cons, hc]
    simp [isBlank, Text.isAsciiBlank, hiff ' ' (by decide), hiff '\t' (by decide), hiff '\n' (by decide),
      hiff '\x0c' (by decide), hiff '\r' (by decide)]

/-- from this index on, the bytes are those of the characters -/
def At (bytes : List UInt8) (i : Nat) (cs : List Char) : Prop := bytes.drop i = encode cs

theorem At.append {bytes : List UInt8} {i : Nat} (cs : List Char) {ds : List Char} (h : At bytes i (cs ++ ds)) :
    At bytes (i + utf8Len cs) ds := by
  rw [At, ← List.drop_drop, h, encode_append, ← length_encode, List.drop_left]

/-! ## Walking over characters -/

/-- no walk looks at a byte that is part of a longer character -/
theorem step_large {b : UInt8} (h : 127 < b.toNat) (place : Place) (rest : List UInt8) :
    step place b rest = (place, 0) := by
  have hne : ∀ d : Char, d.toNat ≤ 127 → b ≠ d.toUInt8 := by
    rintro d hd rfl
    rw [toNat_toUInt8 hd] at h
    omega
  have hmark : ∀ q : Quote, b ≠ q.byte := fun q => hne q.mark (by cases q <;> decide)
  cases place with
  | normal =>
    simp [step, Quote.ofByte?, hmark, opensLine, hne '#' (by decide), hne '-' (by decide), hne '/' (by decide)]
  | quoted q => simp [step, hmark, hne '\\' (by decide)]
  | line => simp [step, hne '\n' (by decide)]
  | block => simp [step, hne '*' (by decide)]

theorem lingers_large {bytes more rest : List UInt8} {i : Nat} (h : bytes.drop i = more ++ rest)
    (hmore : ∀ b ∈ more, 127 < b.toNat) (place : Place) : Lingers bytes place i (i + more.length) := by
  induction more generalizing i with
  | nil => exact .refl i
  | cons b more ih =>
    obtain ⟨hb, hothers⟩ := List.forall_mem_cons.1 hmore
    have hquestion : ¬(place = .normal ∧ b = '?'.toUInt8) := by
      rintro ⟨-, rfl⟩
      exact absurd hb (by decide)
    have hfirst : Lingers bytes place i (i + 1) := .of_drop h hquestion (step_large hb place _)
    have hrest := ih (i := i + 1) (at_of_drop h).2.2 hothers
    rw [List.length_cons, Nat.add_comm more.length, ← Nat.add_assoc]
    exact hfirst.trans hrest

/-- the first byte of a character, and others of it that every walk passes over -/
theorem at_char {bytes : List UInt8} {i : Nat} {c : Char} {cs : List Char} (h : At bytes i (c :: cs)) :
    ∃ b more, bytes.drop i = b :: (more ++ encode cs) ∧ (∀ d : Char, d.toNat ≤ 127 → (b = d.toUInt8 ↔ c = d)) ∧
      (c.toNat ≤ 127 → more = []) ∧ ∀ place, Lingers bytes place (i + 1) (i + utf8Len [c]) := by
  obtain ⟨b, more, hc, hiff, hmore, hascii⟩ := exists_bytes c
  rw [At, encode_cons, hc, List.cons_append] at h
  have hlen : i + utf8Len [c] = i + 1 + more.length := by
    rw [utf8Len_cons, utf8Len_nil, ← String.length_utf8EncodeChar, hc, List.length_cons]
    omega
  refine ⟨b, more, h, hiff, hascii, fun place => ?_⟩
  rw [hlen]
  exact lingers_large (at_of_drop h).2.2 hmore place

/-- two characters of which the first is one byte, with the second byte apart -/
theorem at_pair {bytes : List UInt8} {i : Nat} {c d : Char} {cs : List Char} (h : At bytes i (c :: d :: cs))
    (hc : c.toNat ≤ 127) : bytes.drop i = c.toUInt8 :: encode (d :: cs) ∧
      ∀ place, Lingers bytes place (i + 1 + 1) (i + utf8Len [c, d]) := by
  have hone : c.utf8Size = 1 := by rw [← String.length_utf8EncodeChar, utf8EncodeChar_ascii hc]; rfl
  have hsecond : At bytes (i + 1) (d :: cs) := by
    have hbehind := At.append [c] h
    rwa [utf8Len_cons, utf8Len_nil, hone] at hbehind
  have hlen : i + utf8Len [c, d] = i + 1 + utf8Len [d] := by
    rw [utf8Len_cons, hone]
    omega
  rw [At, encode_cons, utf8EncodeChar_ascii hc] at h
  refine ⟨h, fun place => ?_⟩
  obtain ⟨-, -, -, -, -, hmore⟩ := at_char hsecond
  rw [hlen]
  exact hmore place

/-- a walk over one part and then the other -/
theorem Leads.beside {bytes : List UInt8} {p q r : Place} {i : Nat} {cs ds : List Char} {marks others : List Nat}
    (h : Leads bytes p i marks q (i + utf8Len cs))
    (h' : Leads bytes q (i + utf8Len cs) others r (i + utf8Len cs + utf8Len ds)) :
    Leads bytes p i (marks ++ others) r (i + utf8Len (cs ++ ds)) := by
  rw [utf8Len_append, ← Nat.add_assoc]
  exact h.trans h'

theorem Lingers.beside {bytes : List UInt8} {place : Place} {i : Nat} {cs ds : List Char}
    (h : Lingers bytes place i (i + utf8Len cs))
    (h' : Lingers bytes place (i + utf8Len cs) (i + utf8Len cs + utf8Len ds)) :
    Lingers bytes place i (i + utf8Len (cs ++ ds)) := by
  rw [utf8Len_append, ← Nat.add_assoc]
  exact h.trans h'

/-- what the first byte of a character does, the character does -/
theorem leads_char {bytes : List UInt8} {i : Nat} {c : Char} {cs : List Char} {place next : Place}
    (h : At bytes i (c :: cs)) (hp : place = .normal → c ≠ '?')
    (hstep : ∀ b more, (∀ d : Char, d.toNat ≤ 127 → (b = d.toUInt8 ↔ c = d)) → (c.toNat ≤ 127 → more = []) →
      step place b (more ++ encode cs) = (next, 0)) : Leads bytes place i [] next (i + utf8Len [c]) := by
  obtain ⟨b, more, hbytes, hiff, hascii, hmore⟩ := at_char h
  have hquestion : ¬(place = .normal ∧ b = '?'.toUInt8) := fun hb => hp hb.1 ((hiff '?' (by decide)).1 hb.2)
  exact (leads_step hbytes hquestion (hstep b more hiff hascii)).quiet (hmore next).leads

/-- two characters in one turn; of the second, only the first byte is taken in it -/
theorem leads_pair {bytes : List UInt8} {i : Nat} {c d : Char} {cs : List Char} {place next : Place}
    (h : At bytes i (c :: d :: cs)) (hc : c.toNat ≤ 127) (hp : c ≠ '?')
    (hstep : step place c.toUInt8 (encode (d :: cs)) = (next, 1)) :
    Leads bytes place i [] next (i + utf8Len [c, d]) := by
  obtain ⟨hbytes, hmore⟩ := at_pair h hc
  have hquestion : ¬(place = .normal ∧ c.toUInt8 = '?'.toUInt8) := by
    rintro ⟨-, hq⟩
    have hnat : c.toNat = '?'.toNat := by rw [← toNat_toUInt8 hc, hq]; rfl
    exact hp (Char.toNat_inj.1 hnat)
  exact (leads_step hbytes hquestion hstep).quiet (hmore next).leads

theorem mark_ascii (q : Quote) : q.mark.toNat ≤ 127 := by cases q <;> decide

theorem ofByte?_mark (q : Quote) : Quote.ofByte? q.mark.toUInt8 = some q := by cases q <;> rfl

/-- **A walk stays inside**, and none of its turns goes beyond. -/
theorem lingers_inside {bytes : List UInt8} {i : Nat} {q : Quote} {body tail : List Char} (h : Scan.Inside q body)
    (hat : At bytes i (body ++ tail)) : Lingers bytes (.quoted q) i (i + utf8Len body) := by
  have hquoted : ∀ b, ¬(Place.quoted q = .normal ∧ b = '?'.toUInt8) := fun b => by simp
  induction h generalizing i with
  | nil => exact .refl i
  | @char c cs other bare rest ih =>
    obtain ⟨b, more, hbytes, hb, -, hmore⟩ := at_char hat
    have hmark : b ≠ q.byte := fun hq => other ((hb q.mark (mark_ascii q)).1 hq)
    have hescape : ¬(b = '\\'.toUInt8 ∧ q.hasEscapes = true) := fun he => by
      simp [bare ((hb '\\' (by decide)).1 he.1)] at he
    have hstep : step (.quoted q) b (more ++ encode (cs ++ tail)) = (.quoted q, 0) := by
      rw [step, if_neg hescape, if_neg hmark]
    have hfirst : Lingers bytes (.quoted q) i (i + 1) := .of_drop hbytes (hquoted b) hstep
    exact (hfirst.trans (hmore _)).beside (ih (hat.append [c]))
  | @doubled cs rest ih =>
    obtain ⟨hbytes, hmore⟩ := at_pair hat (mark_ascii q)
    have hstep : step (.quoted q) q.mark.toUInt8 (encode (q.mark :: (cs ++ tail))) = (.quoted q, 1) := by
      have hnext : (encode (q.mark :: (cs ++ tail)))[0]? = some q.byte := (head_encode _ (mark_ascii q)).2 rfl
      have hescape : q.mark.toUInt8 ≠ '\\'.toUInt8 := by cases q <;> decide
      simp [step, hescape, hnext, Quote.byte]
    have hfirst : Lingers bytes (.quoted q) i (i + 1 + 1) := .of_drop hbytes (hquoted _) hstep
    exact (hfirst.trans (hmore _)).beside (ih (hat.append [q.mark, q.mark]))
  | @escaped c cs escapes rest ih =>
    obtain ⟨hbytes, hmore⟩ := at_pair hat (by decide)
    have hstep : step (.quoted q) '\\'.toUInt8 (encode (c :: (cs ++ tail))) = (.quoted q, 1) := by
      have hnonempty : encode (c :: (cs ++ tail)) ≠ [] := by
        obtain ⟨b, more, hc, -⟩ := exists_bytes c
        simp [encode_cons, hc]
      simp [step, escapes, hnonempty]
    have hfirst : Lingers bytes (.quoted q) i (i + 1 + 1) := .of_drop hbytes (hquoted _) hstep
    exact (hfirst.trans (hmore _)).beside (ih (hat.append ['\\', c]))

theorem leads_line {bytes : List UInt8} {i : Nat} {body tail : List Char} (h : '\n' ∉ body)
    (hat : At bytes i (body ++ tail)) : Leads bytes .line i [] .line (i + utf8Len body) := by
  induction body generalizing i with
  | nil => exact .refl bytes _ i
  | cons c body ih =>
    obtain ⟨hc, hbody⟩ := not_or.1 fun hmem => h (List.mem_cons.2 hmem)
    have hfirst : Leads bytes .line i [] .line (i + utf8Len [c]) := by
      refine leads_char hat (by simp) fun b more hb _ => ?_
      have hend : b ≠ '\n'.toUInt8 := fun he => hc ((hb '\n' (by decide)).1 he).symm
      rw [step, if_neg hend]
    exact hfirst.beside (ih hbody (hat.append [c]))

theorem leads_block {bytes : List UInt8} {i : Nat} {body tail : List Char} (h : ¬['*', '/'] <:+: body)
    (htail : tail.head? ≠ some '/') (hat : At bytes i (body ++ tail)) :
    Leads bytes .block i [] .block (i + utf8Len body) := by
  induction body generalizing i with
  | nil => exact .refl bytes _ i
  | cons c body ih =>
    have hbody : ¬['*', '/'] <:+: body := fun hin => h (List.infix_cons_iff.2 (.inr hin))
    have hfirst : Leads bytes .block i [] .block (i + utf8Len [c]) := by
      refine leads_char hat (by simp) fun b more hb hascii => ?_
      have hend : ¬(b = '*'.toUInt8 ∧ (more ++ encode (body ++ tail))[0]? = some '/'.toUInt8) := by
        rintro ⟨hstar, hslash⟩
        obtain rfl := (hb '*' (by decide)).1 hstar
        rw [hascii (by decide), List.nil_append, head_encode _ (by decide)] at hslash
        cases body with
        | nil => exact htail hslash
        | cons d body =>
          obtain rfl : d = '/' := Option.some.inj hslash
          exact h ⟨[], body, rfl⟩
      rw [step]
      exact if_neg hend
    exact hfirst.beside (ih hbody (hat.append [c]))

/-! ## Walking over tokens -/

theorem leads_opener {bytes : List UInt8} {i : Nat} {opener body : List Char} (tail : List Char)
    (h : Scan.OpensLine opener (body ++ tail)) (hbody : '\n' ∉ body) (hat : At bytes i (opener ++ body ++ tail)) :
    Leads bytes .normal i [] .line (i + utf8Len (opener ++ body)) := by
  rw [List.append_assoc] at hat
  have hfront : Leads bytes .normal i [] .line (i + utf8Len opener) := by
    cases h with
    | hash =>
      refine leads_char hat (by simp) fun b more hb _ => ?_
      obtain rfl := (hb '#' (by decide)).2 rfl
      rfl
    | dashes blank =>
      have hdashes : At bytes i ('-' :: '-' :: (body ++ tail)) := hat
      have hfirst : Leads bytes .normal i [] .line (i + utf8Len ['-']) := by
        refine leads_char hdashes (by simp) fun b more hb hascii => ?_
        obtain rfl := (hb '-' (by decide)).2 rfl
        rw [hascii (by decide), List.nil_append, encode_cons, utf8EncodeChar_ascii (by decide)]
        have hblank := (blank_encode (body ++ tail)).2 blank
        have hopens : opensLine '-'.toUInt8 ('-'.toUInt8 :: encode (body ++ tail)) = true := by
          simp [opensLine, hblank]
        simp [step, show Quote.ofByte? '-'.toUInt8 = none from rfl, hopens]
      have hone : '\n' ∉ ['-'] := by decide
      exact hfirst.beside (leads_line hone (hat.append ['-']))
  exact hfront.beside (leads_line hbody (hat.append opener))

theorem step_bland {c : Char} {next : List Char} (h : Scan.Bland c next) {b : UInt8} {more : List UInt8}
    (hb : ∀ d : Char, d.toNat ≤ 127 → (b = d.toUInt8 ↔ c = d)) (hascii : c.toNat ≤ 127 → more = []) :
    step .normal b (more ++ encode next) = (.normal, 0) := by
  have hmark : ∀ q : Quote, b ≠ q.byte := by
    intro q hq
    obtain rfl := (hb q.mark (mark_ascii q)).1 hq
    have hnone := h.quote
    cases q <;> cases hnone
  have hhash : b ≠ '#'.toUInt8 := fun he => h.hash ((hb '#' (by decide)).1 he)
  have hline : opensLine b (more ++ encode next) = false := by
    by_contra hopens
    simp only [opensLine, Bool.not_eq_false, Bool.or_eq_true, Bool.and_eq_true, beq_iff_eq, hhash, false_or] at hopens
    obtain ⟨⟨hdash, hsecond⟩, hblank⟩ := hopens
    obtain rfl := (hb '-' (by decide)).1 hdash
    rw [hascii (by decide), List.nil_append, head_encode _ (by decide)] at hsecond
    obtain ⟨rest, rfl⟩ := List.head?_eq_some_iff.1 hsecond
    rw [hascii (by decide), List.nil_append, encode_cons, utf8EncodeChar_ascii (by decide), List.singleton_append,
      List.getElem?_cons_succ, blank_encode] at hblank
    obtain ⟨d, hd, hother⟩ := h.dash rfl rest rfl
    rw [hblank d hd] at hother
    cases hother
  have hblock : ¬(b = '/'.toUInt8 ∧ (more ++ encode next)[0]? = some '*'.toUInt8) := by
    rintro ⟨hslash, hstar⟩
    obtain rfl := (hb '/' (by decide)).1 hslash
    rw [hascii (by decide), List.nil_append, head_encode _ (by decide)] at hstar
    exact h.slash rfl hstar
  have hnone : Quote.ofByte? b = none := by simp [Quote.ofByte?, hmark]
  simp only [step, hnone, hline, Bool.false_eq_true, if_false]
  exact if_neg hblock

theorem step_openingMark (q : Quote) (rest : List UInt8) : step .normal q.mark.toUInt8 rest = (.quoted q, 0) := by
  simp [step, ofByte?_mark]

theorem leads_opened {bytes : List UInt8} {i : Nat} {q : Quote} {body tail : List Char} (h : Scan.Inside q body)
    (hat : At bytes i (q.mark :: body ++ tail)) :
    Leads bytes .normal i [] (.quoted q) (i + utf8Len (q.mark :: body)) := by
  have hfirst : Leads bytes .normal i [] (.quoted q) (i + utf8Len [q.mark]) := by
    refine leads_char hat (fun _ => by cases q <;> decide) fun b more hb _ => ?_
    obtain rfl := (hb q.mark (mark_ascii q)).2 rfl
    exact step_openingMark q _
  exact hfirst.beside (lingers_inside h (hat.append [q.mark])).leads

theorem leads_commented {bytes : List UInt8} {i : Nat} {body tail : List Char} (h : ¬['*', '/'] <:+: body)
    (htail : tail.head? ≠ some '/') (hat : At bytes i ('/' :: '*' :: body ++ tail)) :
    Leads bytes .normal i [] .block (i + utf8Len ('/' :: '*' :: body)) := by
  have hfirst : Leads bytes .normal i [] .block (i + utf8Len ['/', '*']) := by
    refine leads_pair hat (by decide) (by decide) ?_
    have hstar : (encode ('*' :: (body ++ tail)))[0]? = some '*'.toUInt8 := (head_encode _ (by decide)).2 rfl
    have hline : ∀ rest, opensLine '/'.toUInt8 rest = false := fun rest => rfl
    simp [step, show Quote.ofByte? '/'.toUInt8 = none from rfl, hline, hstar]
  exact hfirst.beside (leads_block h htail (hat.append ['/', '*']))

theorem step_closingMark {q : Quote} {next : List Char} (single : next.head? ≠ some q.mark) :
    step (.quoted q) q.mark.toUInt8 (encode next) = (.normal, 0) := by
  have hescape : q.mark.toUInt8 ≠ '\\'.toUInt8 := by cases q <;> decide
  have hsingle : (encode next)[0]? ≠ some q.mark.toUInt8 := fun h => single ((head_encode _ (mark_ascii q)).1 h)
  simp [step, hescape, Quote.byte, hsingle]

theorem leads_closingMark {bytes : List UInt8} {i : Nat} {q : Quote} {next : List Char}
    (single : next.head? ≠ some q.mark) (hat : At bytes i ([q.mark] ++ next)) :
    Leads bytes (.quoted q) i [] .normal (i + utf8Len [q.mark]) := by
  refine leads_char hat (by simp) fun b more hb hascii => ?_
  obtain rfl := (hb q.mark (mark_ascii q)).2 rfl
  rw [hascii (mark_ascii q)]
  exact step_closingMark single

/-- a backslash at the end of the text keeps nothing -/
theorem leads_lastBackslash {bytes : List UInt8} {i : Nat} {q : Quote} (escapes : q.hasEscapes = true)
    (hat : At bytes i (['\\'] ++ [])) : Leads bytes (.quoted q) i [] (.quoted q) (i + utf8Len ['\\']) := by
  refine leads_char hat (by simp) fun b more hb hascii => ?_
  obtain rfl := (hb '\\' (by decide)).2 rfl
  simp [hascii (by decide), step, escapes, encode]

theorem leads_lineEnd {bytes : List UInt8} {i : Nat} {next : List Char} (hat : At bytes i (['\n'] ++ next)) :
    Leads bytes .line i [] .normal (i + utf8Len ['\n']) := by
  refine leads_char hat (by simp) fun b more hb _ => ?_
  obtain rfl := (hb '\n' (by decide)).2 rfl
  rfl

theorem leads_blockEnd {bytes : List UInt8} {i : Nat} {next : List Char} (hat : At bytes i (['*', '/'] ++ next)) :
    Leads bytes .block i [] .normal (i + utf8Len ['*', '/']) := by
  refine leads_pair hat (by decide) (by decide) ?_
  have hslash : (encode ('/' :: next))[0]? = some '/'.toUInt8 := (head_encode _ (by decide)).2 rfl
  simp [step, hslash]

/-- behind a token the place is outside quotes and comments unless the token is open -/
theorem leads_token {bytes : List UInt8} {i : Nat} {token : Scan.Token} {next : List Char} (h : Scan.Stands token next)
    (hat : At bytes i (token.text ++ next)) :
    ∃ place, Leads bytes .normal i (token.marks i) place (i + utf8Len token.text) ∧
      (place = .normal ↔ token.isClosed = true) := by
  cases h with
  | placeholder => exact ⟨.normal, leads_placeholder hat, by simp [Scan.Token.isClosed]⟩
  | char bland =>
    have hleads := leads_char hat (fun _ => bland.placeholder) fun _ _ hb hascii => step_bland bland hb hascii
    exact ⟨.normal, hleads, by simp [Scan.Token.isClosed]⟩
  | @quoted q body _ inside single =>
    rw [Scan.Token.text_quoted, List.append_assoc] at hat
    have hend := leads_closingMark single (hat.append (q.mark :: body))
    exact ⟨.normal, (leads_opened inside hat).beside hend, by simp [Scan.Token.isClosed]⟩
  | @openQuote q body inside =>
    rw [Scan.Token.text_openQuote] at hat ⊢
    exact ⟨.quoted q, leads_opened inside hat, by simp [Scan.Token.isClosed]⟩
  | @openEscape q body inside escapes =>
    rw [Scan.Token.text_openQuote, ← List.cons_append] at hat ⊢
    rw [List.append_assoc] at hat
    have hend := leads_lastBackslash escapes (hat.append (q.mark :: body))
    exact ⟨.quoted q, (leads_opened inside hat).beside hend, by simp [Scan.Token.isClosed]⟩
  | @line opener body _ opens within =>
    rw [Scan.Token.text_line, List.append_assoc] at hat
    have hend := leads_lineEnd (hat.append (opener ++ body))
    have hopens : Scan.OpensLine opener (body ++ (['\n'] ++ next)) := by
      rw [← List.append_assoc]
      exact opens.extended (by simp) next
    exact ⟨.normal, (leads_opener _ hopens within hat).beside hend, by simp [Scan.Token.isClosed]⟩
  | @openLine opener body opens within =>
    rw [Scan.Token.text_openLine] at hat ⊢
    exact ⟨.line, leads_opener [] (by rwa [List.append_nil]) within hat, by simp [Scan.Token.isClosed]⟩
  | @block body _ within =>
    rw [Scan.Token.text_block, List.append_assoc] at hat
    have hend := leads_blockEnd (hat.append ('/' :: '*' :: body))
    exact ⟨.normal, (leads_commented within (by simp) hat).beside hend, by simp [Scan.Token.isClosed]⟩
  | @openBlock body within =>
    rw [Scan.Token.text_openBlock] at hat ⊢
    exact ⟨.block, leads_commented within (by simp) hat, by simp [Scan.Token.isClosed]⟩

/-- **A walk finds the placeholders of a row**, and it ends outside quotes and comments unless a token is open. -/
theorem walk_row {bytes : List UInt8} {i : Nat} {tokens : List Scan.Token} {cs : List Char} (h : Scan.Reads tokens cs)
    (hat : At bytes i cs) :
    (walk bytes .normal i).1 = Scan.rowMarks i tokens ∧
      ((walk bytes .normal i).2 = .normal ↔ tokens.all Scan.Token.isClosed = true) := by
  induction h generalizing i with
  | nil =>
    rw [walk_end hat]
    simp [Scan.rowMarks]
  | @cons token tokens cs stands rest ih =>
    obtain ⟨place, hleads, hplace⟩ := leads_token stands hat
    obtain ⟨ihmarks, ihlast⟩ := ih (hat.append token.text)
    rw [Leads] at hleads
    rw [hleads, Scan.rowMarks, List.all_cons]
    rcases stands.scan.2 with ⟨hclosed, -⟩ | ⟨hopen, rfl, -⟩
    · rw [hplace.2 hclosed, ihmarks, hclosed, Bool.true_and]
      exact ⟨rfl, ihlast⟩
    · -- the bytes end with an open token
      have hend := hat.append token.text
      rw [walk_end hend] at ihmarks ⊢
      rw [← ihmarks, hopen, Bool.false_and]
      exact ⟨rfl, by simp [hplace, hopen]⟩

/-! ## Values along a walk -/

/-- the text with values in the place of these bytes; all in front of `copied` is in `out` -/
def splice (text : String) : Nat → String → List (Nat × Datum) → Option (List Nat × String)
  | copied, out, [] => do
    let piece ← slice? text copied (bytes text).length
    some ([], out ++ piece)
  | copied, out, (i, value) :: others => do
    let piece ← slice? text copied i
    let (marks, filled) ← splice text (i + 1) (out ++ piece ++ value.literal) others
    some (i :: marks, filled)

/-- values are put where a walk finds placeholders, as long as there are any -/
theorem refillFrom_eq (text : String) (place : Place) (values : List Datum) (copied i : Nat) (out : String) :
    refillFrom text place values copied i out = splice text copied out ((walk (bytes text) place i).1.zip values) := by
  fun_induction walk (bytes text) place i generalizing values copied out with
  | case1 place i h hp marks last hwalk ih =>
    cases values with
    | nil =>
      rw [refillFrom.eq_def, dif_pos h, if_pos hp]
      simpa [hwalk] using ih [] copied out
    | cons value values =>
      rw [refillFrom.eq_def, dif_pos h, if_pos hp, List.zip_cons_cons, splice]
      simp [ih, hwalk]
  | case2 place i h hp next extra hstep ih =>
    rw [refillFrom.eq_def, dif_pos h, if_neg hp, hstep]
    exact ih values copied out
  | case3 place i h =>
    rw [refillFrom.eq_def, dif_neg h]
    rfl

theorem isValid_front {text : String} {front back : List Char} (h : text.toList = front ++ back) :
    String.Pos.Raw.IsValid text ⟨utf8Len front⟩ := by
  have htext : text = String.ofList front ++ String.ofList back := by
    rw [← String.ofList_append, ← h, String.ofList_toList]
  exact String.Pos.Raw.isValid_iff_exists_append.2 ⟨_, _, htext, (String.rawEndPos_ofList front).symm⟩

theorem slice?_between {text : String} {front piece back : List Char} (h : text.toList = front ++ piece ++ back) :
    slice? text (utf8Len front) (utf8Len front + utf8Len piece) = some (String.ofList piece) := by
  have hstart : String.Pos.Raw.IsValid text ⟨utf8Len front⟩ := isValid_front (by rw [h, List.append_assoc])
  have hstop : String.Pos.Raw.IsValid text ⟨utf8Len front + utf8Len piece⟩ := by
    rw [← utf8Len_append]
    exact isValid_front h
  have htext : text = String.ofList (front ++ piece ++ back) := by rw [← h, String.ofList_toList]
  rw [slice?, if_pos ⟨Nat.le_add_right _ _, hstart, hstop⟩, htext, String.extract_of_valid]

theorem splice_nil {text : String} {front back : List Char} (h : text.toList = front ++ back) (out : String) :
    splice text (utf8Len front) out [] = some ([], out ++ String.ofList back) := by
  have hlen : (bytes text).length = utf8Len front + utf8Len back := by
    rw [bytes_eq, length_encode, h, utf8Len_append]
  have hwhole : text.toList = front ++ back ++ [] := by rw [h, List.append_nil]
  rw [splice, hlen, slice?_between hwhole]
  rfl

/-- `mid` has been walked over and is not yet copied -/
theorem splice_marks {text : String} (s : Scan.State) (values : List Datum) {front mid cs : List Char}
    (h : text.toList = front ++ mid ++ cs) (out : String) :
    splice text (utf8Len front) out ((Scan.marks s (utf8Len front + utf8Len mid) cs).zip values) =
      some ((Scan.marks s (utf8Len front + utf8Len mid) cs).take values.length,
        out ++ String.ofList mid ++ String.ofList (Scan.fill s values cs)) := by
  induction cs generalizing s values front mid out with
  | nil =>
    rw [List.append_nil] at h
    have hend := splice_nil h out
    simpa [Scan.marks, Scan.fill] using hend
  | cons c cs ih =>
    cases values with
    | nil =>
      rw [List.append_assoc] at h
      have hend := splice_nil h out
      simpa [Scan.fill_nil, String.append_assoc] using hend
    | cons value values =>
      by_cases hp : Scan.isPlaceholder s c = true
      · obtain ⟨rfl, -⟩ := Scan.isPlaceholder_iff.1 hp
        have hrest : text.toList = (front ++ mid ++ ['?']) ++ [] ++ cs := by simp [h]
        have hone : '?'.utf8Size = 1 := by decide
        have hbehind := ih (Scan.step s '?') values hrest (out ++ String.ofList mid ++ value.literal)
        have hlen : utf8Len (front ++ mid ++ ['?']) = utf8Len front + utf8Len mid + 1 := by
          simp [hone, Nat.add_assoc]
        rw [hlen, utf8Len_nil, Nat.add_zero] at hbehind
        rw [Scan.marks, if_pos hp, hone, Scan.fill_cons_placeholder hp, List.singleton_append, List.zip_cons_cons,
          splice, slice?_between h]
        simp only [Option.bind_eq_bind, Option.bind_some, hbehind]
        simp [String.append_assoc]
      · have hother : Scan.isPlaceholder s c = false := Bool.eq_false_of_not_eq_true hp
        have hrest : text.toList = front ++ (mid ++ [c]) ++ cs := by simp [h]
        have hbehind := ih (Scan.step s c) (value :: values) hrest out
        have hlen : utf8Len front + utf8Len (mid ++ [c]) = utf8Len front + utf8Len mid + c.utf8Size := by
          simp [Nat.add_assoc]
        rw [hlen] at hbehind
        rw [Scan.marks, if_neg hp, List.nil_append, hbehind, Scan.fill_cons_other hother, String.append_assoc,
          String.append_assoc, ← String.ofList_append, ← String.ofList_append, List.append_assoc, List.singleton_append]

/-! ## Texts -/

/-- the placeholders of a text, and the place at its end -/
def found (text : String) : List Nat × Place := walk (bytes text) .normal 0

theorem found_row {text : String} {tokens : List Scan.Token} (h : Scan.Reads tokens text.toList) :
    (found text).1 = Scan.rowMarks 0 tokens ∧ ((found text).2 = .normal ↔ tokens.all Scan.Token.isClosed = true) :=
  walk_row h (bytes_eq text)

/-- **A walk finds what a scan finds.** -/
theorem found_text (text : String) :
    (found text).1 = Scan.marks .plain 0 text.toList ∧ ((found text).2 = .normal ↔ Closed text) := by
  obtain ⟨tokens, hread⟩ := Scan.exists_reads text.toList
  obtain ⟨hmarks, hlast⟩ := found_row hread
  obtain ⟨hscan, hclosed⟩ := hread.scan
  rw [hmarks, hscan, hlast, Closed, hclosed]
  exact ⟨rfl, .rfl⟩

/-- **Values come in the place of the first placeholders**, and no piece is cut within a character. -/
theorem refill_text (text : String) (values : List Datum) :
    refill text values = some ((found text).1.take values.length, fill text values) := by
  cases values with
  | nil => simp [refill, fill, Scan.fill_nil]
  | cons value values =>
    have hwhole : text.toList = [] ++ [] ++ text.toList := rfl
    have hsplice := splice_marks .plain (value :: values) hwhole ""
    have hmarks := (found_text text).1
    rw [found] at hmarks ⊢
    rw [refill, List.isEmpty_cons, if_neg (by simp), refillFrom_eq, hmarks]
    simpa [fill] using hsplice

end Walk

open Walk (found refill)

theorem parts_spaced {a : String} (h : Closed a) (b : String) (values : List Datum) :
    placeholders (a ++ " " ++ b) = placeholders a + placeholders b ∧
      fill (a ++ " " ++ b) values = fill a values ++ " " ++ fill b (values.drop (placeholders a)) := by
  have hrest : Scan.rest (Scan.run .plain a.toList) = .plain := Scan.isClosed_iff.1 h
  have hspace : ∀ s values, Scan.fill s values (' ' :: b.toList) = ' ' :: Scan.fill (Scan.rest s) values b.toList :=
    fun s values => Scan.fill_cons_other rfl values b.toList
  have htext : (a ++ " " ++ b).toList = a.toList ++ ' ' :: b.toList := by simp
  constructor
  · rw [placeholders, (Scan.scan_spaced .plain a b).2, hrest]
    rfl
  · rw [fill, htext, Scan.fill_parts, hspace, hrest]
    simp [fill, placeholders, String.append_assoc]

/-- **Walks compose, and they agree.** Behind a text that is walked to its end outside quotes and comments, and a space,
another text is walked as if it stood alone. For every text, the bytes in whose place values come are the first of those
that are counted, and these are where the placeholders stand in the row of its tokens. Every turn goes on, and none past
the end. -/
theorem walks_compose {a : String} (ha : (found a).2 = .normal) (b : String) (values : List Datum) :
    placeholders (a ++ " " ++ b) = placeholders a + placeholders b ∧
      fill (a ++ " " ++ b) values = fill a values ++ " " ++ fill b (values.drop (placeholders a)) ∧
      ∀ text : String,
        (found text).1.length = placeholders text ∧
          (∀ values, refill text values = some ((found text).1.take values.length, fill text values)) ∧
          (∃ tokens, Scan.Reads tokens text.toList) ∧
          (∀ tokens, Scan.Reads tokens text.toList → (found text).1 = Scan.rowMarks 0 tokens ∧
            ((found text).2 = .normal ↔ tokens.all Scan.Token.isClosed = true)) ∧
          ∀ (place : Walk.Place) (i : Nat) (hi : i < (Walk.bytes text).length),
            let next := i + 1 + (Walk.step place (Walk.bytes text)[i] ((Walk.bytes text).drop (i + 1))).2
            i < next ∧ next ≤ (Walk.bytes text).length := by
  obtain ⟨hcount, hfill⟩ := parts_spaced ((Walk.found_text a).2.1 ha) b values
  refine ⟨hcount, hfill, fun text => ⟨?_, Walk.refill_text text, Scan.exists_reads text.toList, fun tokens hread => ?_,
    fun place i hi => ?_⟩⟩
  · rw [(Walk.found_text text).1, Scan.length_marks]
    rfl
  · exact Walk.found_row hread
  · exact Walk.step_bounds (Walk.bytes text) place hi

/-- a dash on either side of the space, and a placeholder behind a character of two bytes -/
theorem walks_compose_dashes :
    (found "a = ? -").2 = .normal ∧ placeholders ("a = ? -" ++ " " ++ "- 'é?', ?") = 2 ∧
      fill ("a = ? -" ++ " " ++ "- 'é?', ?") [.int 1, .int 2] = "a = 1 - - 'é?', 2" := by
  have hlast : (found "a = ? -").2 = .normal := (Walk.found_text _).2.2 (by decide)
  obtain ⟨hcount, hfill, -⟩ := walks_compose hlast "- 'é?', ?" [.int 1, .int 2]
  refine ⟨hlast, hcount.trans (by decide), hfill.trans (by decide)⟩

end SqlSession
