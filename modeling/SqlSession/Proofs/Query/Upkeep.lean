/-
What every draft keeps to, after any sequence of calls.

The lists of a draft are written by many clauses, some of them by several. Whatever is called on a draft, in any order,
refused calls and scopes among it:
- `OptionsKept`, `JoinsKept`, `OrdersKept`, `GroupsKept`: what holds of each list, `Draft.Kept` of all of them;
- `kept_record`, `kept_after`, `kept_afterAll`: one clause, one call, all calls;
- `record_ordered`: a key of the order stays where it is and only its direction changes, and other clauses leave the
  order alone; `keys_afterAll`: so keys never move until the draft is cleared;
- `recordIn_refused`: a clause that is refused leaves the draft as it was;
- `kept_throughout`: all this after any calls on a fresh draft.
-/
import SqlSession.Proofs.Query.Families
import Mathlib.Data.List.DropRight

namespace SqlSession

/-! ## Trimmed texts -/

namespace Text

theorem trimEndChars_begins (cs : List Char) : trimEndChars cs <+: cs :=
  List.rdropWhile_prefix isBlank cs

theorem trimEndChars_trimEndChars (cs : List Char) : trimEndChars (trimEndChars cs) = trimEndChars cs :=
  List.rdropWhile_idempotent isBlank cs

/-- what begins a text without blanks in front has none in front itself -/
theorem trimStartChars_of_begins {cs ds : List Char} (h : ds <+: trimStartChars cs) : trimStartChars ds = ds := by
  cases ds with
  | nil => rfl
  | cons c rest =>
    obtain ⟨behind, hsplit⟩ := h
    have hfirst : ¬isBlank c = true := by
      have hfixed : (trimStartChars cs).dropWhile isBlank = trimStartChars cs := List.dropWhile_idempotent isBlank cs
      rw [← hsplit] at hfixed
      exact List.dropWhile_eq_self_iff.1 hfixed (by simp)
    exact List.dropWhile_cons_of_neg hfirst

theorem trimmed_trimmed (s : String) : trimmed (trimmed s) = trimmed s := by
  simp only [trimmed, String.toList_ofList]
  rw [trimStartChars_of_begins (trimEndChars_begins _), trimEndChars_trimEndChars]

/-- trimming adds no character -/
theorem mem_of_mem_trimmed {s : String} {c : Char} (h : c ∈ (trimmed s).toList) : c ∈ s.toList := by
  rw [trimmed, String.toList_ofList] at h
  exact (List.dropWhile_sublist isBlank).subset ((trimEndChars_begins _).subset h)

end Text

namespace Query

/-! ## What holds of each list -/

/-- the words that an option may have, those of row locks among them -/
def optionWords : List String :=
  ["ALL", "DISTINCT", "DISTINCTROW", "HIGH_PRIORITY", "STRAIGHT_JOIN", "SQL_SMALL_RESULT", "SQL_BIG_RESULT",
   "SQL_BUFFER_RESULT", "SQL_CACHE", "SQL_NO_CACHE", "SQL_CALC_FOUND_ROWS", "LOW_PRIORITY", "IGNORE", "QUICK",
   "FOR UPDATE", "LOCK IN SHARE MODE"]

/-- the words that a join may have in front -/
def joinWords : List String :=
  ["LEFT", "RIGHT", "OUTER", "INNER", "LEFT OUTER", "RIGHT OUTER", "NATURAL"]

/-- the characters that a group may have; the two letters beyond ASCII are equal to one of A to Z but for their case -/
def Groupable (c : Char) : Prop :=
  c.isAlphanum = true ∨ c = 'ſ' ∨ c = '\u212a' ∨ c ∈ ['-', '.', '(', ')', ',', '_', '*', ' ', '<', '>', '=', '!']

/-- each modifier once, each a word of the list that is not a row lock -/
structure OptionsKept (modifiers : List Modifier) : Prop where
  once : (modifiers.map Modifier.text).Nodup
  allowed : ∀ word ∈ modifiers.map Modifier.text, word ∈ optionWords
  noLock : ∀ word ∈ modifiers.map Modifier.text, word ≠ "FOR UPDATE" ∧ word ≠ "LOCK IN SHARE MODE"

/-- each join is plain or has upper-case words of the list -/
structure JoinsKept (joins : List Join) : Prop where
  allowed : ∀ join ∈ joins, join.kind.text = "" ∨ join.kind.text ∈ joinWords
  upper : ∀ join ∈ joins, Text.upper join.kind.text = join.kind.text

/-- each key once, and a direction for each but the random order -/
structure OrdersKept (orders : List (String × Option Direction)) : Prop where
  once : (orders.map Prod.fst).Nodup
  undirected : ∀ entry ∈ orders, entry.2 = none ↔ entry.1 = "rand()"

/-- each group has a character, no blanks around it, and no character of another kind -/
structure GroupsKept (groups : List String) : Prop where
  filled : ∀ group ∈ groups, group ≠ ""
  trimmed : ∀ group ∈ groups, Text.trimmed group = group
  clean : ∀ group ∈ groups, ∀ c ∈ group.toList, Groupable c

/-- what holds of the lists of a draft -/
structure Draft.Kept (d : Draft) : Prop where
  options : OptionsKept d.modifiers
  joins : JoinsKept d.joins
  orders : OrdersKept d.orders
  groups : GroupsKept d.groups

/-! ## One list at a time -/

theorem Modifier.text_injective : Function.Injective Modifier.text := by
  intro m n h
  cases m <;> cases n <;> first | rfl | exact absurd h (by decide)

theorem Modifier.text_allowed (m : Modifier) :
    m.text ∈ optionWords ∧ m.text ≠ "FOR UPDATE" ∧ m.text ≠ "LOCK IN SHARE MODE" := by
  cases m <;> decide

/-- modifiers are words of the list by their type; only that there is one of each is left to show -/
theorem optionsKept_iff {modifiers : List Modifier} : OptionsKept modifiers ↔ modifiers.Nodup := by
  refine ⟨fun h => h.once.of_map _, fun h => ⟨h.map Modifier.text_injective, ?_, ?_⟩⟩
  · rintro word hword
    obtain ⟨m, -, rfl⟩ := List.mem_map.1 hword
    exact m.text_allowed.1
  · rintro word hword
    obtain ⟨m, -, rfl⟩ := List.mem_map.1 hword
    exact m.text_allowed.2

theorem OptionsKept.withModifier {d : Draft} (h : OptionsKept d.modifiers) (m : Modifier) :
    OptionsKept (d.withModifier m).modifiers := by
  rw [optionsKept_iff] at h ⊢
  unfold Draft.withModifier
  split
  · exact h
  · next hnew =>
    have hnew : m ∉ d.modifiers := by simpa using hnew
    exact List.nodup_append.2 ⟨h, List.nodup_singleton m, fun a ha b hb => by
      rw [List.mem_singleton.1 hb]
      exact fun heq => hnew (heq ▸ ha)⟩

theorem JoinKind.text_allowed (kind : JoinKind) :
    (kind.text = "" ∨ kind.text ∈ joinWords) ∧ Text.upper kind.text = kind.text := by
  cases kind <;> decide +kernel

/-- kinds of joins are words of the list by their type -/
theorem joinsKept (joins : List Join) : JoinsKept joins :=
  ⟨fun join _ => join.kind.text_allowed.1, fun join _ => join.kind.text_allowed.2⟩

theorem GroupsKept.append {groups : List String} (h : GroupsKept groups) {field : String}
    (hf : (Sanitize.groupField field).isEmpty = false) : GroupsKept (groups ++ [Sanitize.groupField field]) := by
  have hclean : ∀ c ∈ (Sanitize.groupField field).toList, Groupable c := by
    intro c hc
    have hkept := Text.mem_of_mem_trimmed hc
    rw [String.toList_ofList] at hkept
    have hkept := (List.mem_filter.1 hkept).2
    simpa [Sanitize.isKept, Sanitize.groupMarks, Groupable, or_assoc] using hkept
  refine ⟨?_, ?_, ?_⟩ <;> intro group hgroup <;> rcases List.mem_append.1 hgroup with hold | hnew
  · exact h.filled group hold
  · rw [List.mem_singleton.1 hnew]
    exact fun hempty => by simp [hempty] at hf
  · exact h.trimmed group hold
  · rw [List.mem_singleton.1 hnew]
    exact Text.trimmed_trimmed _
  · exact h.clean group hold
  · rw [List.mem_singleton.1 hnew]
    exact hclean

/-! ## The order -/

namespace Draft

/-- what giving a key a direction makes of an order: a key that is there stays where it is, another one goes behind -/
inductive Rekeyed (key : String) (direction : Option Direction) (before : List (String × Option Direction)) :
    List (String × Option Direction) → Prop where
  | redirected {front back : List (String × Option Direction)} {old : Option Direction}
      (there : before = front ++ (key, old) :: back) : Rekeyed key direction before (front ++ (key, direction) :: back)
  | appended (absent : key ∉ before.map Prod.fst) : Rekeyed key direction before (before ++ [(key, direction)])

theorem rekeyed_putOrder (key : String) (direction : Option Direction) (orders : List (String × Option Direction)) :
    Rekeyed key direction orders (putOrder key direction orders) := by
  induction orders with
  | nil => exact .appended (by simp)
  | cons entry rest ih =>
    obtain ⟨first, old⟩ := entry
    unfold putOrder
    split
    · next heq =>
      obtain rfl : first = key := heq
      exact .redirected (List.nil_append _).symm
    · next hne =>
      have hne : first ≠ key := hne
      generalize hput : putOrder key direction rest = after at ih ⊢
      cases ih with
      | @redirected front back last there =>
        exact @Rekeyed.redirected key direction _ ((first, old) :: front) back last (congrArg _ there)
      | appended absent => exact .appended (by simpa [Ne.symm hne] using absent)

namespace Rekeyed

variable {key : String} {direction : Option Direction} {before after : List (String × Option Direction)}

/-- the keys stay, in their places; the key is behind them if it is new -/
theorem keys (h : Rekeyed key direction before after) :
    after.map Prod.fst =
      if key ∈ before.map Prod.fst then before.map Prod.fst else before.map Prod.fst ++ [key] := by
  cases h with
  | redirected there => simp [there]
  | appended absent => simp [absent]

theorem mem (h : Rekeyed key direction before after) {entry : String × Option Direction} (he : entry ∈ after) :
    entry ∈ before ∨ entry = (key, direction) := by
  cases h with
  | redirected there =>
    subst there
    simp only [List.mem_append, List.mem_cons] at he ⊢
    tauto
  | appended absent => simpa using he

/-- the order stays well formed if only the random order is given no direction -/
theorem kept (h : Rekeyed key direction before after) (hkept : OrdersKept before)
    (hdirection : direction = none ↔ key = "rand()") : OrdersKept after := by
  refine ⟨?_, ?_⟩
  · rw [h.keys]
    split
    · exact hkept.once
    · next hnew =>
      refine List.nodup_append.2 ⟨hkept.once, List.nodup_singleton key, fun a ha b hb => ?_⟩
      rw [List.mem_singleton.1 hb]
      exact fun heq => hnew (heq ▸ ha)
  · intro entry he
    rcases h.mem he with hold | rfl
    · exact hkept.undirected entry hold
    · exact hdirection

end Rekeyed

/-- the key that a clause gives a direction, if it does so at all, and the word for the direction -/
def orderEntry? (d : Draft) : Clause → Option (String × String)
  | .order field way =>
    let field := Sanitize.orderField d.tablePrefix field
    some (if isRandom field then "rand()" else field, way)
  | .orderList field values way => some (d.orderListText field values, way)
  | .orderPattern field pattern way => some (d.orderPatternText field pattern, way)
  | _ => none

/-- the direction that a key is recorded with: the random order has none -/
def directionFor (key : String) (direction : Direction) : Option Direction :=
  if key = "rand()" then none else some direction

theorem directionFor_of_ne {key : String} (h : key ≠ "rand()") (direction : Direction) :
    directionFor key direction = some direction := if_neg h

theorem directionFor_eq_none {key : String} {direction : Direction} :
    directionFor key direction = none ↔ key = "rand()" := by
  unfold directionFor
  split <;> simp [*]

/-- an order by a list of values begins as no random order does -/
theorem orderListText_ne_rand (d : Draft) (field : String) (values : List String) :
    d.orderListText field values ≠ "rand()" := by
  intro h
  have hhead := congrArg (fun s : String => s.toList.head?) h
  simp [orderListText, String.toList_append] at hhead

/-- an order by a pattern ends as no random order does -/
theorem orderPatternText_ne_rand (d : Draft) (field pattern : String) :
    d.orderPatternText field pattern ≠ "rand()" := by
  intro h
  have hquoted : (d.orderPatternText field pattern).toList.getLast? = some '\'' := by
    rw [orderPatternText, String.toList_append]
    exact List.getLast?_concat
  rw [h] at hquoted
  revert hquoted
  decide +kernel

theorem isRandom_rand : isRandom "rand()" = true := by decide +kernel

theorem recordOrder_eq (d : Draft) (field : String) (direction : Direction) :
    d.recordOrder field direction =
      let key := if isRandom (Sanitize.orderField d.tablePrefix field) then "rand()"
        else Sanitize.orderField d.tablePrefix field
      d.withOrder key (directionFor key direction) := by
  unfold recordOrder
  dsimp only
  split
  · rfl
  · next hnot =>
    have hne : Sanitize.orderField d.tablePrefix field ≠ "rand()" := fun heq => hnot (heq ▸ isRandom_rand)
    rw [directionFor_of_ne hne]

/-- **The order by one clause.** A clause with a key gives it the direction that its word says; all else of the draft
stays. -/
theorem record_ordered {d d' : Draft} {clause : Clause} {key word : String}
    (hk : d.orderEntry? clause = some (key, word)) (h : d.record clause = .ok d') :
    ∃ direction, Direction.read word = .ok direction ∧
      Rekeyed key (directionFor key direction) d.orders d'.orders ∧ d' = { d with orders := d'.orders } := by
  cases clause with
  | order field way =>
    obtain ⟨direction, hread, h⟩ := except_bind_ok.1 h
    obtain rfl := Except.ok.inj h
    obtain ⟨rfl, rfl⟩ := Prod.mk.inj (Option.some.inj hk)
    rw [recordOrder_eq]
    exact ⟨direction, hread, rekeyed_putOrder _ _ _, rfl⟩
  | orderList field values way =>
    obtain ⟨direction, hread, h⟩ := except_bind_ok.1 h
    obtain rfl := Except.ok.inj h
    obtain ⟨rfl, rfl⟩ := Prod.mk.inj (Option.some.inj hk)
    have hway := directionFor_of_ne (orderListText_ne_rand d field values) direction
    exact ⟨direction, hread, hway ▸ rekeyed_putOrder _ _ _, rfl⟩
  | orderPattern field pattern way =>
    obtain ⟨direction, hread, h⟩ := except_bind_ok.1 h
    obtain rfl := Except.ok.inj h
    obtain ⟨rfl, rfl⟩ := Prod.mk.inj (Option.some.inj hk)
    have hway := directionFor_of_ne (orderPatternText_ne_rand d field pattern) direction
    exact ⟨direction, hread, hway ▸ rekeyed_putOrder _ _ _, rfl⟩
  | _ => cases hk

/-- clauses without a key leave the order alone -/
theorem record_unordered {d d' : Draft} {clause : Clause} (hk : d.orderEntry? clause = none)
    (h : d.record clause = .ok d') : d'.orders = d.orders := by
  have hother : clause.family? ≠ some .orders := by
    intro hf
    cases clause with
    | order field way => cases hk
    | orderList field values way => cases hk
    | orderPattern field pattern way => cases hk
    | option name => simp only [Clause.family?] at hf; split at hf <;> cases hf
    | _ => cases hf
  show (d'.only .orders).orders = (d.only .orders).orders
  rw [record_other h hother]

/-- keys that are there stay where they are; at most one more comes behind them -/
theorem keys_record {d d' : Draft} {clause : Clause} (h : d.record clause = .ok d') :
    d.orders.map Prod.fst <+: d'.orders.map Prod.fst := by
  cases hk : d.orderEntry? clause with
  | none => rw [record_unordered hk h]
  | some entry =>
    obtain ⟨direction, -, hput, -⟩ := record_ordered hk h
    rw [hput.keys]
    split
    · exact List.prefix_rfl
    · exact List.prefix_append _ _

/-! ## One clause -/

theorem kept_fresh (tablePrefix : String) : (fresh tablePrefix).Kept where
  options := optionsKept_iff.2 List.nodup_nil
  joins := joinsKept []
  orders := ⟨List.nodup_nil, nofun⟩
  groups := ⟨nofun, nofun, nofun⟩

/-- **One clause.** What a clause records leaves every list well formed. -/
theorem kept_record {d d' : Draft} {clause : Clause} (h : d.record clause = .ok d') (hd : d.Kept) : d'.Kept := by
  refine ⟨?_, joinsKept d'.joins, ?_, ?_⟩
  · -- two clauses write modifiers, by one function
    by_cases hf : clause.family? = some .options
    · cases clause with
      | option name =>
        simp only [record, recordOption] at h
        split at h
        · exact Except.ok.inj h ▸ hd.options
        · exact Except.ok.inj h ▸ hd.options.withModifier _
        · cases h
      | totalCount => exact Except.ok.inj h ▸ hd.options.withModifier _
      | _ => cases hf
    · show OptionsKept (d'.only .options).modifiers
      rw [record_other h hf]
      exact hd.options
  · cases hk : d.orderEntry? clause with
    | none => exact record_unordered hk h ▸ hd.orders
    | some entry =>
      obtain ⟨direction, -, hput, -⟩ := record_ordered hk h
      exact hput.kept hd.orders directionFor_eq_none
  · by_cases hf : clause.family? = some .groups
    · cases clause with
      | group field =>
        obtain rfl := Except.ok.inj h
        split
        · exact hd.groups
        · next hfilled => exact hd.groups.append (Bool.eq_false_of_not_eq_true hfilled)
      | option name => simp only [Clause.family?] at hf; split at hf <;> cases hf
      | _ => cases hf
    · show GroupsKept (d'.only .groups).groups
      rw [record_other h hf]
      exact hd.groups

/-- clauses that are not scopes are refused before anything is recorded -/
theorem recordIn_refused {registry : Option Registry} {d : Draft} {clause : Clause} {e : Error}
    (hc : ∀ name args, clause ≠ .scope name args) (h : (d.recordIn registry clause).2 = .error e) :
    (d.recordIn registry clause).1 = d := by
  unfold recordIn at h ⊢
  split
  · next name args => exact absurd rfl (hc name args)
  · cases hr : d.record clause with
    | error e => rfl
    | ok d' => simp [hr] at h

/-! ## Scopes -/

/-- what a scope may do: clauses one by one, each chosen in view of the draft and of what became of the one before -/
inductive Handler where
  | done (verdict : Except Error Unit)
  | call (clause : Clause) (next : Draft → Except Error Unit → Handler)

namespace Handler

/-- a handler has no registry, so that it applies no scopes -/
def run : Handler → Draft → Draft × Except Error Unit
  | done verdict, d => (d, verdict)
  | call clause next, d =>
    let after := d.recordIn none clause
    (next after.1 after.2).run after.1

/-- the handler that records clauses up to the first that is refused or could not be made -/
def ofClauses : List (Except Error Clause) → Handler
  | [] => done (.ok ())
  | .error e :: _ => done (.error e)
  | .ok clause :: rest =>
    call clause fun _ verdict =>
      match verdict with
      | .error e => done (.error e)
      | .ok () => ofClauses rest

end Handler

/-- without a registry a scope is refused as any other clause is -/
theorem recordIn_none (d : Draft) (clause : Clause) :
    d.recordIn none clause =
      match d.record clause with
      | .error e => (d, .error e)
      | .ok d' => (d', .ok ()) := by
  unfold recordIn
  split <;> rfl

theorem run_ofClauses (d : Draft) (clauses : List (Except Error Clause)) :
    (Handler.ofClauses clauses).run d = d.recordAll clauses := by
  induction clauses generalizing d with
  | nil => rfl
  | cons clause rest ih =>
    cases clause with
    | error e => rfl
    | ok clause =>
      simp only [Handler.ofClauses, Handler.run, recordIn_none, recordAll]
      cases d.record clause with
      | error e => rfl
      | ok d' => exact ih d'

section Follows

variable {R : Draft → Draft → Prop} (hrefl : ∀ d, R d d) (htrans : ∀ {d d' d''}, R d d' → R d' d'' → R d d'')
  (hrecord : ∀ {d d' clause}, record d clause = .ok d' → R d d')

include hrefl hrecord in
theorem recordIn_none_follows (d : Draft) (clause : Clause) : R d (d.recordIn none clause).1 := by
  rw [recordIn_none]
  cases hr : d.record clause with
  | error e => exact hrefl d
  | ok d' => exact hrecord hr

include hrefl htrans hrecord in
/-- what is so of each clause that is recorded is so of a handler, as it does nothing else -/
theorem handler_follows (handler : Handler) (d : Draft) : R d (handler.run d).1 := by
  induction handler generalizing d with
  | done verdict => exact hrefl d
  | call clause next ih => exact htrans (recordIn_none_follows hrefl hrecord d clause) (ih _ _ _)

include hrefl htrans hrecord in
/-- and of any clause, a scope of a registry or another one -/
theorem recordIn_follows (registry : Option Registry) (d : Draft) (clause : Clause) :
    R d (d.recordIn registry clause).1 := by
  unfold recordIn
  split
  · split
    · exact hrefl d
    · next scope _ =>
      rw [← run_ofClauses]
      exact handler_follows hrefl htrans hrecord _ d
  · cases hr : d.record clause with
    | error e => exact hrefl d
    | ok d' => exact hrecord hr

end Follows

/-! ## Calls -/

/-- what is called on a draft -/
inductive Call where
  | clause (registry : Option Registry) (clause : Clause)
  /-- a scope, whatever its handler does -/
  | scope (handler : Handler)
  | reset
  /-- the draft is given away and a fresh one put in its place -/
  | take

/-- whether the call leaves what has been recorded -/
def Call.adds : Call → Bool
  | clause _ _ => true
  | scope _ => true
  | reset => false
  | take => false

/-- the draft behind a call -/
def after (d : Draft) : Call → Draft
  | .clause registry clause => (d.recordIn registry clause).1
  | .scope handler => (handler.run d).1
  | .reset => d.reset
  | .take => fresh d.tablePrefix

/-- the draft behind all these calls -/
def afterAll (d : Draft) (calls : List Call) : Draft := calls.foldl after d

/-- **One call.** A call leaves every list well formed. -/
theorem kept_after {d : Draft} (hd : d.Kept) (call : Call) : (d.after call).Kept := by
  cases call with
  | clause registry clause =>
    exact recordIn_follows (R := fun d d' => d.Kept → d'.Kept) (fun _ => id) (fun h h' => h' ∘ h) kept_record
      registry d clause hd
  | scope handler =>
    exact handler_follows (R := fun d d' => d.Kept → d'.Kept) (fun _ => id) (fun h h' => h' ∘ h) kept_record
      handler d hd
  | reset => exact kept_fresh _
  | take => exact kept_fresh _

/-- **All calls.** So do any calls, one after the other. -/
theorem kept_afterAll {d : Draft} (hd : d.Kept) (calls : List Call) : (d.afterAll calls).Kept := by
  induction calls generalizing d with
  | nil => exact hd
  | cons call rest ih => exact ih (kept_after hd call)

section Follows

variable {R : Draft → Draft → Prop} (hrefl : ∀ d, R d d) (htrans : ∀ {d d' d''}, R d d' → R d' d'' → R d d'')
  (hrecord : ∀ {d d' clause}, record d clause = .ok d' → R d d')

include hrefl htrans hrecord in
/-- and of any calls that leave what has been recorded -/
theorem afterAll_follows (d : Draft) {calls : List Call} (hadds : ∀ call ∈ calls, call.adds) :
    R d (d.afterAll calls) := by
  induction calls generalizing d with
  | nil => exact hrefl d
  | cons call rest ih =>
    obtain ⟨hcall, hrest⟩ := List.forall_mem_cons.1 hadds
    have hone : R d (d.after call) := by
      cases call with
      | clause registry clause => exact recordIn_follows hrefl htrans hrecord registry d clause
      | scope handler => exact handler_follows hrefl htrans hrecord handler d
      | reset => cases hcall
      | take => cases hcall
    exact htrans hone (ih _ hrest)

end Follows

/-- keys of the order never move until the draft is cleared -/
theorem keys_afterAll (d : Draft) {calls : List Call} (hadds : ∀ call ∈ calls, call.adds) :
    d.orders.map Prod.fst <+: (d.afterAll calls).orders.map Prod.fst :=
  afterAll_follows (R := fun d d' => d.orders.map Prod.fst <+: d'.orders.map Prod.fst) (fun _ => List.prefix_rfl)
    (fun h h' => h.trans h') keys_record d hadds

/-- **Upkeep of drafts.** Whatever is called on a draft from the start, its lists are well formed. From there a clause of
the order gives its key a direction where it stands or puts it behind the others and changes nothing else, other clauses
leave the order alone, calls that do not clear the draft never move a key, and a clause other than a scope that is
refused leaves the draft as it was. -/
theorem kept_throughout (tablePrefix : String) (calls : List Call) (d : Draft)
    (hd : d = (fresh tablePrefix).afterAll calls) :
    d.Kept ∧
      (∀ clause d', d.record clause = .ok d' →
        match d.orderEntry? clause with
        | none => d'.orders = d.orders
        | some (key, word) => ∃ direction, Direction.read word = .ok direction ∧
            Rekeyed key (directionFor key direction) d.orders d'.orders ∧ d' = { d with orders := d'.orders }) ∧
      (∀ more : List Call, (∀ call ∈ more, call.adds) →
        d.orders.map Prod.fst <+: (d.afterAll more).orders.map Prod.fst) ∧
      ∀ registry clause e, (∀ name args, clause ≠ .scope name args) →
        (d.recordIn registry clause).2 = .error e → (d.recordIn registry clause).1 = d := by
  refine ⟨hd ▸ kept_afterAll (kept_fresh tablePrefix) calls, ?_, fun more hmore => keys_afterAll d hmore,
    fun registry clause e hc he => recordIn_refused hc he⟩
  intro clause d' h
  cases hk : d.orderEntry? clause with
  | none => exact record_unordered hk h
  | some entry => exact record_ordered hk h

/-- calls among which a key is given another direction, an option comes twice and two clauses are refused -/
def sampleCalls : List Call :=
  [.clause none (.order "name" " asc "), .clause none (.order "Rand( )" "desc"),
   .clause none (.option "sql_calc_found_rows"), .clause none .totalCount, .clause none (.group " ; a.b "),
   .clause none (.option "delayed"),
   .clause none (.order "name" "desc"), .scope (.call (.join (.table "t") "t.id = u.id" " left ") fun _ => .done),
   .clause none (.order "name" "sideways")]

theorem kept_throughout_sample :
    ((fresh "").afterAll sampleCalls).Kept ∧
      ((fresh "").afterAll sampleCalls).orders = [("name", some .descending), ("rand()", none)] ∧
      ((fresh "").afterAll sampleCalls).modifiers = [.calcFoundRows] ∧
      ((fresh "").afterAll sampleCalls).groups = ["a.b"] ∧
      (((fresh "").afterAll sampleCalls).recordIn none (.order "name" "up")).1 = (fresh "").afterAll sampleCalls :=
  have h := kept_throughout "" sampleCalls _ rfl
  ⟨h.1, by decide +kernel, by decide +kernel, by decide +kernel,
    h.2.2.2 none (.order "name" "up") (.orderDirection "UP") nofun rfl⟩

end Draft

end Query

end SqlSession
