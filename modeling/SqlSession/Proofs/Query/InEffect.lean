/-
What the texts of ORDER BY and GROUP BY do to the clauses behind them.

These texts lose the characters of a set and keep the others, among them quotes, dashes and spaces. So a text can open a
literal or a comment that takes in the rest of the statement (`sorting_in_effect_swallowed`), and a text that closes what
it opens can still do so in the wrong place: one with quotes within a literal, or any behind two dashes that a comma
keeps from opening a comment. Otherwise nothing is lost:
- `quiet_groupField_iff`, `quiet_orderField_iff`: without quotes, only two dashes in front of a space or at the end open
  anything;
- `inner_key`: and a text without quotes ends no literal and no comment;
- `undisturbed_record`, `undisturbed_recordEach`: a call that fits its draft leaves the scan behind GROUP BY and behind
  ORDER BY where it was, and so do any number of calls;
- `sorting_in_effect`: so aligned statements stay aligned, and what stands behind is read as before.
-/
import SqlSession.Proofs.Scan.Standing
import SqlSession.Proofs.Query.Alignment
import SqlSession.Proofs.Query.Upkeep

namespace SqlSession.Query

open Scan (Alike EndsDashed Inner Keeps Steady Undashed isInner isTame rest rest_rest stand)

/-! ## Texts -/

def HasQuotes (text : String) : Prop := ∃ c ∈ text.toList, Quote.ofMark? c ≠ none

instance (text : String) : Decidable (HasQuotes text) := List.decidableBEx _ text.toList

namespace Sanitize

theorem ne_of_kept {marks : List Char} {c d : Char} (hc : isKept marks c = true) (hd : isKept marks d = false) :
    c ≠ d := by
  rintro rfl
  rw [hc] at hd
  cases hd

/-- nothing that is kept, but for quotes, ends a literal or a comment, and only dashes can open one -/
theorem harmless_of_kept {marks : List Char} (hmarks : marks ⊆ orderMarks ++ groupMarks) {c : Char}
    (hkept : isKept marks c = true) (hquote : Quote.ofMark? c = none) : isInner c = true ∧ isTame c = true := by
  have hall : isKept (orderMarks ++ groupMarks) c = true := by
    simp only [isKept, Bool.or_eq_true, List.contains_iff_mem] at hkept ⊢
    exact hkept.imp_right fun hc => hmarks hc
  have hbackslash : c ≠ '\\' := ne_of_kept hall (by decide)
  have hslash : c ≠ '/' := ne_of_kept hall (by decide)
  have hhash : c ≠ '#' := ne_of_kept hall (by decide)
  have hplaceholder : c ≠ '?' := ne_of_kept hall (by decide)
  have hnewline : c ≠ '\n' := ne_of_kept hall (by decide)
  have htab : c ≠ '\t' := ne_of_kept hall (by decide)
  have hfeed : c ≠ '\x0c' := ne_of_kept hall (by decide)
  have hreturn : c ≠ '\r' := ne_of_kept hall (by decide)
  constructor
  · simp [isInner, hbackslash, hnewline, hslash, hquote]
  · by_cases hdash : c = '-'
    · simp [isTame, hdash]
    · by_cases hspace : c = ' '
      · simp [isTame, hspace]
      · simp [isTame, Scan.fresh, Text.isAsciiBlank, hquote, hslash, hhash, hplaceholder, hnewline, htab, hfeed, hreturn,
          hdash, hspace]

/-- what is kept of a text for GROUP BY has no quotes either -/
theorem harmless_groupField (field : String) :
    ∀ c ∈ (groupField field).toList, isInner c = true ∧ isTame c = true := by
  intro c hc
  have hmem := Text.mem_of_mem_trimmed hc
  rw [String.toList_ofList] at hmem
  have hkept : isKept groupMarks c = true := (List.mem_filter.1 hmem).2
  have hsingle : c ≠ '\'' := ne_of_kept hkept (by decide)
  have hdouble : c ≠ '"' := ne_of_kept hkept (by decide)
  have hbacktick : c ≠ '`' := ne_of_kept hkept (by decide)
  exact harmless_of_kept (List.subset_append_right _ _) hkept (by simp [Quote.ofMark?, hsingle, hdouble, hbacktick])

theorem inner_groupField (field : String) : Inner (groupField field) := fun c hc => (harmless_groupField field c hc).1

/-- a text for GROUP BY is quiet unless two dashes in it are in front of a space or at its end -/
theorem quiet_groupField_iff (field : String) :
    Quiet (groupField field) ↔
      ¬['-', '-', ' '] <:+: (groupField field).toList ∧ ¬EndsDashed (groupField field) :=
  Scan.quiet_iff_of_tame fun c hc => (harmless_groupField field c hc).2

/-- without a backtick there is no qualifier for the prefix -/
theorem qualify_unquoted {pre cs : List Char} (h : '`' ∉ qualify pre false cs) : qualify pre false cs = cs := by
  induction cs with
  | nil => rfl
  | cons c cs ih =>
    rw [qualify, if_neg (by decide)] at h ⊢
    split_ifs at h ⊢ with hc
    · have hbacktick : c = '`' := by simpa using (Bool.and_eq_true_iff.1 hc).1
      exact absurd (List.mem_cons.2 (.inl hbacktick.symm)) h
    · rw [ih fun hmem => h (List.mem_cons_of_mem c hmem)]

theorem harmless_orderField {tablePrefix field : String} (h : ¬HasQuotes (orderField tablePrefix field)) :
    ∀ c ∈ (orderField tablePrefix field).toList, isInner c = true ∧ isTame c = true := by
  have hbacktick : '`' ∉ (orderField tablePrefix field).toList := fun hmem => h ⟨_, hmem, by decide⟩
  intro c hc
  have hquote : Quote.ofMark? c = none := by
    by_contra hmark
    exact h ⟨c, hc, hmark⟩
  rw [orderField, String.toList_ofList] at hc hbacktick
  rw [qualify_unquoted hbacktick] at hc
  exact harmless_of_kept (List.subset_append_left _ _) (List.mem_filter.1 hc).2 hquote

theorem inner_orderField {tablePrefix field : String} (h : ¬HasQuotes (orderField tablePrefix field)) :
    Inner (orderField tablePrefix field) := fun c hc => (harmless_orderField h c hc).1

/-- and so is a text for ORDER BY that has no quotes -/
theorem quiet_orderField_iff {tablePrefix field : String} (h : ¬HasQuotes (orderField tablePrefix field)) :
    Quiet (orderField tablePrefix field) ↔
      ¬['-', '-', ' '] <:+: (orderField tablePrefix field).toList ∧ ¬EndsDashed (orderField tablePrefix field) :=
  Scan.quiet_iff_of_tame fun c hc => (harmless_orderField h c hc).2

end Sanitize

namespace Draft

/-- the text that a call brings into ORDER BY or GROUP BY, if its direction can be read -/
def sortText? (d : Draft) : Clause → Option String
  | .group field => some (Sanitize.groupField field)
  | clause => (d.orderEntry? clause).bind fun entry => (Direction.read entry.2).toOption.map fun _ => entry.1

theorem sortText_ordered {d : Draft} {clause : Clause} {key word : String}
    (hk : d.orderEntry? clause = some (key, word)) {direction : Direction} (hw : Direction.read word = .ok direction) :
    d.sortText? clause = some key := by
  cases clause with
  | group field => cases hk
  | _ =>
    rw [sortText?, hk, Option.bind_some, hw]
    · rfl
    · simp

/-- a text without quotes has nothing that ends a literal or a comment -/
theorem inner_key {d : Draft} {clause : Clause} {key word : String}
    (hk : d.orderEntry? clause = some (key, word)) (hq : ¬HasQuotes key) : Inner key := by
  cases clause with
  | order field way =>
    obtain ⟨rfl, -⟩ := Prod.mk.inj (Option.some.inj hk)
    split_ifs at hq ⊢ with hrandom
    · decide
    · exact Sanitize.inner_orderField hq
  | orderList field values way =>
    obtain ⟨rfl, -⟩ := Prod.mk.inj (Option.some.inj hk)
    exact absurd ⟨'"', by simp [orderListText], by decide⟩ hq
  | orderPattern field pattern way =>
    obtain ⟨rfl, -⟩ := Prod.mk.inj (Option.some.inj hk)
    exact absurd ⟨'\'', by simp [orderPatternText], by decide⟩ hq
  | _ => cases hk

/-! ## Calls that fit -/

/-- a call for ORDER BY or GROUP BY that fits a draft: its text is quiet, with quotes only if its place is `outside`
every literal and comment, and it comes behind nothing that ends in two dashes -/
structure Fits (d : Draft) (outside : Prop) (clause : Clause) : Prop where
  sorts : clause.family? = some .groups ∨ clause.family? = some .orders
  quiet : ∀ text ∈ d.sortText? clause, Quiet text
  quotes : ∀ text ∈ d.sortText? clause, HasQuotes text → outside
  groups : clause.family? = some .groups → Undashed d.groups
  orders : clause.family? = some .orders → Undashed (d.orders.map orderText)

/-- the parts of GROUP BY and ORDER BY -/
def groupParts (d : Draft) : List String := (groupSection d.groups).parts

def orderParts (d : Draft) : List String := (orderSection d.orders).parts

theorem groupParts_eq (d : Draft) : d.groupParts = Scan.listed "GROUP BY" d.groups := by
  unfold groupParts groupSection Scan.listed
  split <;> rfl

theorem orderParts_eq (d : Draft) : d.orderParts = Scan.listed "ORDER BY" (d.orders.map orderText) := by
  unfold orderParts orderSection Scan.listed
  rw [List.isEmpty_map]
  split <;> rfl

theorem keeps_groupBy {r : Scan.State} (hr : rest r = r) : Keeps r "GROUP BY" :=
  Scan.keeps_of_quiet hr (by decide) (.inr (by decide))

theorem keeps_orderBy {r : Scan.State} (hr : rest r = r) : Keeps r "ORDER BY" :=
  Scan.keeps_of_quiet hr (by decide) (.inr (by decide))

/-- the second draft has other groups and orders, and all else between and behind these parts is read as before -/
structure Undisturbed (lead having : List String) (d d' : Draft) : Prop where
  others : d' = { d with groups := d'.groups, orders := d'.orders }
  groups : Steady (stand .plain lead) d.groupParts d'.groupParts
  orders : Steady (stand .plain (lead ++ d.groupParts ++ having)) d.orderParts d'.orderParts
  groupsEnd : Undashed d.groups → Undashed d'.groups
  ordersEnd : Undashed (d.orders.map orderText) → Undashed (d'.orders.map orderText)

namespace Undisturbed

variable {lead having : List String} {d d' d'' : Draft}

theorem refl (d : Draft) : Undisturbed lead having d d := ⟨rfl, .refl _ _, .refl _ _, id, id⟩

/-- everything up to the orders -/
theorem upToHaving (h : Undisturbed lead having d d') :
    Steady .plain (lead ++ d.groupParts ++ having) (lead ++ d'.groupParts ++ having) :=
  ((Steady.refl _ lead).append h.groups).append (.refl _ having)

theorem upToOrders (h : Undisturbed lead having d d') :
    Steady .plain (lead ++ d.groupParts ++ having ++ d.orderParts) (lead ++ d'.groupParts ++ having ++ d'.orderParts) :=
  h.upToHaving.append h.orders

theorem trans (h : Undisturbed lead having d d') (h' : Undisturbed lead having d' d'') :
    Undisturbed lead having d d'' where
  others := by
    rw [h'.others, h.others]
  groups := h.groups.trans h'.groups
  orders := by
    have horders := h'.orders
    rw [h.upToHaving.stand] at horders
    exact h.orders.trans horders
  groupsEnd := h'.groupsEnd ∘ h.groupsEnd
  ordersEnd := h'.ordersEnd ∘ h.ordersEnd

end Undisturbed

/-! ## One call -/

theorem keeps_direction {r : Scan.State} (hr : rest r = r) (direction : Direction) : Keeps r direction.text := by
  apply Scan.keeps_of_quiet hr
  · cases direction <;> decide
  · cases direction <;> exact .inr (by decide)

theorem keeps_orderText {r : Scan.State} (hr : rest r = r) {key : String} (hk : Keeps r key)
    (direction : Option Direction) : Keeps r (orderText (key, direction)) := by
  cases direction with
  | none => exact hk
  | some direction => exact hk.spaced (keeps_direction hr direction)

/-- a direction changes nothing for what is behind it -/
theorem alike_orderText (key : String) (direction direction' : Option Direction) :
    Alike (orderText (key, direction)) (orderText (key, direction')) := by
  have hkey : ∀ direction r, rest (Scan.run r (orderText (key, direction)).toList) = rest (Scan.run r key.toList) ∧
      Scan.count r (orderText (key, direction)).toList = Scan.count r key.toList := by
    intro direction r
    cases direction with
    | none => exact ⟨rfl, rfl⟩
    | some direction =>
      obtain ⟨hrun, hcount⟩ := Scan.scan_spaced r key direction.text
      have hword := keeps_direction (rest_rest (Scan.run r key.toList)) direction
      exact ⟨(congrArg rest hrun).trans hword.back, hcount.trans (by rw [hword.none, Nat.add_zero])⟩
  constructor
  · intro r _
    rw [(hkey direction' r).1, (hkey direction r).1]
  · intro r _
    rw [(hkey direction' r).2, (hkey direction r).2]

theorem not_endsDashed_orderText {key : String} (hk : Quiet key) (direction : Option Direction) :
    ¬EndsDashed (orderText (key, direction)) := by
  cases direction with
  | none => exact Scan.not_endsDashed hk.closed
  | some direction =>
    have hkeeps := keeps_orderText (r := .plain) rfl (Scan.keeps_of_quiet rfl hk (.inl rfl)) (some direction)
    exact Scan.not_endsDashed (Scan.isClosed_iff.2 hkeeps.back)

section

variable {key : String} {direction : Option Direction} {before after : List (String × Option Direction)}

/-- giving a key a direction leaves the scan behind the orders where it was -/
theorem steady_rekeyed (h : Rekeyed key direction before after) (hquiet : Quiet key) {r : Scan.State} (hr : rest r = r)
    (hlast : Undashed (before.map orderText))
    (hk : Keeps (stand r (Scan.listed "ORDER BY" (before.map orderText))) key) :
    Steady r (Scan.listed "ORDER BY" (before.map orderText)) (Scan.listed "ORDER BY" (after.map orderText)) := by
  cases h with
  | @redirected front back old there =>
    rw [there, List.map_append, List.map_cons, List.map_append, List.map_cons]
    apply (alike_orderText key old direction).steady _ _ hr (keeps_orderBy hr)
    · exact not_endsDashed_orderText hquiet old
    · exact not_endsDashed_orderText hquiet direction
  | appended absent =>
    rw [List.map_append, List.map_singleton]
    apply Scan.steady_appended hr (keeps_orderBy hr) hlast
    exact keeps_orderText (Scan.rest_stand hr _) hk direction

theorem undashed_rekeyed (h : Rekeyed key direction before after) (hquiet : Quiet key)
    (hlast : Undashed (before.map orderText)) : Undashed (after.map orderText) := by
  cases h with
  | @redirected front back old there =>
    rw [there, List.map_append, List.map_cons] at hlast
    rw [List.map_append, List.map_cons]
    exact hlast.replaced (not_endsDashed_orderText hquiet direction)
  | appended absent =>
    rw [List.map_append, List.map_singleton]
    exact Scan.undashed_appended _ (not_endsDashed_orderText hquiet direction)

end

theorem family_ordered {d : Draft} {clause : Clause} {entry : String × String} (hk : d.orderEntry? clause = some entry) :
    clause.family? = some .orders := by
  cases clause with
  | order field way => rfl
  | orderList field values way => rfl
  | orderPattern field pattern way => rfl
  | _ => cases hk

section

variable {lead having : List String} {d d' : Draft} {outside : Prop} {clause : Clause}

theorem undisturbed_grouped {field : String} (hfits : d.Fits outside (.group field))
    (h : d.record (.group field) = .ok d') : Undisturbed lead having d d' := by
  simp only [record, Except.ok.injEq] at h
  split_ifs at h
  · rw [← h]
    exact .refl d
  · obtain rfl := h
    have hquiet := hfits.quiet _ rfl
    have hr : rest (stand .plain lead) = stand .plain lead := Scan.rest_stand rfl lead
    refine ⟨rfl, ?_, .refl _ _, fun _ => Scan.undashed_appended _ (Scan.not_endsDashed hquiet.closed), id⟩
    rw [groupParts_eq, groupParts_eq]
    apply Scan.steady_appended hr (keeps_groupBy hr) (hfits.groups rfl)
    exact Scan.keeps_of_quiet (Scan.rest_stand hr _) hquiet (.inr (Sanitize.inner_groupField field))

theorem undisturbed_ordered {key word : String} (hk : d.orderEntry? clause = some (key, word))
    (hfits : d.Fits outside clause)
    (houtside : outside → stand .plain (lead ++ d.groupParts ++ having ++ d.orderParts) = .plain)
    (h : d.record clause = .ok d') : Undisturbed lead having d d' := by
  obtain ⟨direction, hread, hput, hothers⟩ := record_ordered hk h
  have htext := sortText_ordered hk hread
  have hquiet : Quiet key := hfits.quiet key htext
  have hlast := hfits.orders (family_ordered hk)
  have hgroups : d'.groups = d.groups := by rw [hothers]
  have hplace := Scan.rest_stand (r := .plain) rfl (lead ++ d.groupParts ++ having)
  have hkeeps : Keeps (stand (stand .plain (lead ++ d.groupParts ++ having)) d.orderParts) key := by
    apply Scan.keeps_of_quiet (Scan.rest_stand hplace _) hquiet
    by_cases hq : HasQuotes key
    · rw [← Scan.stand_append]
      exact .inl (houtside (hfits.quotes key htext hq))
    · exact .inr (inner_key hk hq)
  refine ⟨hothers.trans (by rw [hgroups]), ?_, ?_, ?_, undashed_rekeyed hput hquiet⟩
  · rw [groupParts, groupParts, hgroups]
    exact .refl _ _
  · rw [orderParts_eq] at hkeeps
    rw [orderParts_eq, orderParts_eq]
    exact steady_rekeyed hput hquiet hplace hlast hkeeps
  · rw [hgroups]
    exact id

/-- a call that fits leaves the rest of the statement as it was -/
theorem undisturbed_record (hfits : d.Fits outside clause)
    (houtside : outside → stand .plain (lead ++ d.groupParts ++ having ++ d.orderParts) = .plain)
    (h : d.record clause = .ok d') : Undisturbed lead having d d' := by
  cases hk : d.orderEntry? clause with
  | some entry => exact undisturbed_ordered hk hfits houtside h
  | none =>
    have hsorts := hfits.sorts
    cases clause with
    | group field => exact undisturbed_grouped hfits h
    | order field way => cases hk
    | orderList field values way => cases hk
    | orderPattern field pattern way => cases hk
    | option name =>
      simp only [Clause.family?] at hsorts
      split_ifs at hsorts <;> simp at hsorts
    | _ => simp [Clause.family?] at hsorts

/-! ## Any number of calls -/

theorem Fits.moved (hfits : d.Fits outside clause) (h : Undisturbed lead having d d') : d'.Fits outside clause := by
  have htext : d'.sortText? clause = d.sortText? clause := by
    rw [h.others]
    cases clause <;> rfl
  constructor
  · exact hfits.sorts
  · rw [htext]
    exact hfits.quiet
  · rw [htext]
    exact hfits.quotes
  · exact h.groupsEnd ∘ hfits.groups
  · exact h.ordersEnd ∘ hfits.orders

theorem undisturbed_recordIn (registry : Option Registry) (hfits : d.Fits outside clause)
    (houtside : outside → stand .plain (lead ++ d.groupParts ++ having ++ d.orderParts) = .plain) :
    Undisturbed lead having d (d.recordIn registry clause).1 := by
  obtain ⟨f, hf⟩ : ∃ f, clause.family? = some f := hfits.sorts.elim (fun h => ⟨_, h⟩) fun h => ⟨_, h⟩
  rw [recordIn_eq hf]
  cases hr : d.record clause with
  | error e => exact .refl d
  | ok d' => exact undisturbed_record hfits houtside hr

theorem undisturbed_recordEach (registry : Option Registry) {clauses : List Clause}
    (hfits : ∀ clause ∈ clauses, d.Fits outside clause)
    (houtside : outside → stand .plain (lead ++ d.groupParts ++ having ++ d.orderParts) = .plain) :
    Undisturbed lead having d (d.recordEach registry clauses).1 := by
  induction clauses generalizing d with
  | nil => exact .refl d
  | cons clause others ih =>
    obtain ⟨hclause, hothers⟩ := List.forall_mem_cons.1 hfits
    have hone : Undisturbed lead having d (d.recordIn registry clause).1 :=
      undisturbed_recordIn registry hclause houtside
    refine hone.trans (ih (fun c hc => (hothers c hc).moved hone) fun ho => ?_)
    rw [hone.upToOrders.stand]
    exact houtside ho

end

/-! ## Statements -/

/-- the draft without the clauses behind ORDER BY -/
def upToOrders (d : Draft) : Draft := { d with limit := none, onDuplicate := none, lock := none }

/-- a new text of ORDER BY has its place outside every literal and comment -/
def OrdersOutside (d : Draft) (command : Command) : Prop :=
  ∀ s, d.upToOrders.compile command = .ok s → Closed s.text

namespace Rendered

variable {data : Data}

/-- the parts in front of GROUP BY -/
def lead {d : Draft} (r : Rendered d data) (head : List String) : List String :=
  head ++ r.front.parts ++ r.wheres.parts

/-- the parts behind ORDER BY -/
def tail {d : Draft} (r : Rendered d data) : List String :=
  (limitSection d.limit ++ r.duplicate ++ lockSection d.lock).parts

theorem text_statement {d : Draft} (r : Rendered d data) (head : List String) :
    (r.statement head).text =
      Text.joinWith " " (r.lead head ++ d.groupParts ++ r.havings.parts ++ d.orderParts ++ r.tail) := by
  simp [statement, Section.statement, Section.ofParts, lead, tail, back, groupParts, orderParts]

theorem binds_statement {d : Draft} (r : Rendered d data) (head : List String) :
    (r.statement head).binds = r.front.binds ++ r.wheres.binds ++ r.havings.binds ++ r.duplicate.binds := by
  simp [statement, Section.statement, Section.ofParts, back, binds_groupSection, binds_orderSection,
    binds_limitSection, binds_lockSection]

end Rendered

/-- where a new text of ORDER BY has its place, by the parts in front of it -/
theorem stand_of_outside {d : Draft} {command : Command} {s : Statement} {table : String}
    (hs : d.compile command = .ok s) (ht : d.target = .ok table) (r : Rendered d command.data)
    (h : d.OrdersOutside command) :
    stand .plain (r.lead (command.head d table) ++ d.groupParts ++ r.havings.parts ++ d.orderParts) = .plain := by
  have hduplicate : d.upToOrders.duplicateSectionOf command.data = .ok .none := by
    cases command.data <;> rfl
  let r' : Rendered d.upToOrders command.data :=
    ⟨r.joins, r.wheres, r.havings, .none, r.joins_ok, r.wheres_ok, r.havings_ok, hduplicate⟩
  have hcheck : command.check d = .ok () := (compile_eq_ok.1 hs).1
  have hcompile : d.upToOrders.compile command = .ok (r'.statement (command.head d table)) :=
    compile_eq_ok.2 ⟨hcheck, table, ht, assemble_eq_ok.2 ⟨r', rfl⟩⟩
  have htail : r'.tail = [] := rfl
  have hclosed := h _ hcompile
  rw [r'.text_statement, htail, List.append_nil, Scan.closed_parts] at hclosed
  exact hclosed

/-- groups and orders decide neither whether a draft compiles nor its values -/
theorem compile_sorted {d d' : Draft} (hothers : d' = { d with groups := d'.groups, orders := d'.orders })
    {command : Command} {s : Statement} {table : String} (hs : d.compile command = .ok s) (ht : d.target = .ok table)
    (r : Rendered d command.data) :
    ∃ s', d'.compile command = .ok s' ∧
      s'.text = Text.joinWith " " (r.lead (command.head d table) ++ d'.groupParts ++ r.havings.parts ++ d'.orderParts
        ++ r.tail) ∧
      s'.binds = (r.statement (command.head d table)).binds := by
  obtain ⟨groups, orders, rfl⟩ : ∃ groups orders, d' = { d with groups := groups, orders := orders } :=
    ⟨_, _, hothers⟩
  have hduplicate : { d with groups := groups, orders := orders }.duplicateSectionOf command.data = .ok r.duplicate := by
    rw [← r.duplicate_ok]
    cases command.data <;> rfl
  let r' : Rendered { d with groups := groups, orders := orders } command.data :=
    ⟨r.joins, r.wheres, r.havings, r.duplicate, r.joins_ok, r.wheres_ok, r.havings_ok, hduplicate⟩
  have hcheck : command.check d = .ok () := (compile_eq_ok.1 hs).1
  refine ⟨r'.statement (command.head d table), ?_, r'.text_statement _, ?_⟩
  · exact compile_eq_ok.2 ⟨hcheck, table, ht, assemble_eq_ok.2 ⟨r', rfl⟩⟩
  · rw [r'.binds_statement, r.binds_statement]
    rfl

/-- **Sorting leaves the rest in effect.** Calls for ORDER BY and GROUP BY that fit an aligned statement leave it aligned,
however many they are: it compiles with the same values, and HAVING and all that is behind ORDER BY is read from where it
was read before. -/
theorem sorting_in_effect (registry : Option Registry) {d : Draft} {command : Command} {s : Statement}
    (hs : d.compile command = .ok s) (aligned : s.Aligned) {clauses : List Clause}
    (hfits : ∀ clause ∈ clauses, d.Fits (d.OrdersOutside command) clause) :
    let d' := (d.recordEach registry clauses).1
    ∃ s', d'.compile command = .ok s' ∧ s'.Aligned ∧ s'.binds = s.binds ∧
      ∃ table, d.target = .ok table ∧ ∃ r : Rendered d command.data,
        let lead := r.lead (command.head d table)
        s.text = Text.joinWith " " (lead ++ d.groupParts ++ r.havings.parts ++ d.orderParts ++ r.tail) ∧
        s'.text = Text.joinWith " " (lead ++ d'.groupParts ++ r.havings.parts ++ d'.orderParts ++ r.tail) ∧
        stand .plain (lead ++ d'.groupParts) = stand .plain (lead ++ d.groupParts) ∧
        stand .plain (lead ++ d'.groupParts ++ r.havings.parts ++ d'.orderParts) =
          stand .plain (lead ++ d.groupParts ++ r.havings.parts ++ d.orderParts) := by
  intro d'
  obtain ⟨hcheck, table, htable, hassemble⟩ := compile_eq_ok.1 hs
  obtain ⟨r, rfl⟩ := assemble_eq_ok.1 hassemble
  have hsame : Undisturbed (r.lead (command.head d table)) r.havings.parts d d' :=
    undisturbed_recordEach registry hfits (stand_of_outside hs htable r)
  have hgroups := (Steady.refl .plain (r.lead (command.head d table))).append hsame.groups
  have hall := hsame.upToOrders.append (.refl _ r.tail)
  obtain ⟨s', hs', htext', hbinds'⟩ := compile_sorted hsame.others hs htable r
  refine ⟨s', hs', ⟨?_, ?_⟩, hbinds', table, htable, r, r.text_statement _, htext', hgroups.stand,
    hsame.upToOrders.stand⟩
  · have hclosed := aligned.closed
    rw [r.text_statement, Scan.closed_parts] at hclosed
    rw [htext', Scan.closed_parts, hall.stand]
    exact hclosed
  · have hcounted := aligned.counted
    rw [Statement.placeholders, r.text_statement, Scan.placeholders_parts] at hcounted
    rw [Statement.placeholders, htext', Scan.placeholders_parts, hall.met, hbinds', hcounted]

/-- the best players of each kind -/
def ranked : Draft :=
  { fresh "p_" with
    table := some "scores"
    columns := "kind, player"
    groups := ["kind"]
    havings := [⟨.and, "SUM(points)", ">", .operand (.bind (.int 9))⟩]
    orders := [("`p_scores`.points", some .ascending)]
    limit := some ⟨none, 5⟩
    lock := some .forUpdate }

/-- a new direction, quotes around what would be a comment, one more group, a direction of no kind, a random order -/
def rankings : List Clause :=
  [.order "`scores`.points;" " desc", .order "'n/a --', \"-- \"" "asc", .group " LEFT(player, 2)#--x",
    .order "id --" "sideways", .order "RAND ( )" "asc"]

theorem ordersOutside_ranked : ranked.OrdersOutside .select := by
  intro s hs
  have htext : ranked.upToOrders.compile .select =
      .ok ⟨"SELECT kind, player FROM p_scores GROUP BY kind HAVING SUM(points) > ? ORDER BY `p_scores`.points ASC",
        [.int 9]⟩ := by rfl
  cases htext.symm.trans hs
  decide +kernel

theorem fits_rankings : ∀ clause ∈ rankings, ranked.Fits (ranked.OrdersOutside .select) clause := by
  intro clause hc
  refine ⟨?_, ?_, fun _ _ _ => ordersOutside_ranked, fun _ => by decide +kernel, fun _ => by decide +kernel⟩
  · revert clause
    decide +kernel
  · revert clause
    decide +kernel

/-- the statement keeps its placeholder, its limit and its lock -/
theorem sorting_in_effect_ranked :
    (∃ s, ranked.compile .select = .ok s ∧ s.Aligned) ∧
      (∀ clause ∈ rankings, ranked.Fits (ranked.OrdersOutside .select) clause) ∧
      ∃ s', (ranked.recordEach none rankings).1.compile .select = .ok s' ∧ s'.Aligned ∧
        s'.text = "SELECT kind, player FROM p_scores GROUP BY kind, LEFT(player, 2)--x HAVING SUM(points) > ? "
          ++ "ORDER BY `p_scores`.points DESC, 'na --', \"-- \" ASC, rand() LIMIT 5 FOR UPDATE" := by
  obtain ⟨s, hs, aligned⟩ : ∃ s, ranked.compile .select = .ok s ∧ s.Aligned :=
    ⟨_, rfl, ⟨by decide +kernel, by decide +kernel⟩⟩
  obtain ⟨s', hs', aligned', -⟩ := sorting_in_effect none hs aligned fits_rankings
  have htext : ((ranked.recordEach none rankings).1.compile .select).map Statement.text =
      .ok ("SELECT kind, player FROM p_scores GROUP BY kind, LEFT(player, 2)--x HAVING SUM(points) > ? "
        ++ "ORDER BY `p_scores`.points DESC, 'na --', \"-- \" ASC, rand() LIMIT 5 FOR UPDATE") := by decide +kernel
  rw [hs'] at htext
  exact ⟨⟨s, hs, aligned⟩, fits_rankings, s', hs', aligned', Except.ok.inj htext⟩

/-- rows of a kind that are few enough -/
def capped : Draft :=
  { fresh "" with
    table := some "t"
    havings := [⟨.and, "cnt", ">", .operand (.bind (.int 1))⟩]
    limit := some ⟨none, 5⟩ }

/-- one command of each kind -/
def commands : List Command :=
  [.select, .insert .insert [("a", .bind (.int 1))], .update [("a", .bind (.int 1))] true, .delete true]

/-- an insert in which a literal reaches from HAVING over ORDER BY -/
def spanned : Draft :=
  { fresh "" with
    table := some "t"
    havings := [⟨.and, "h = '", "", .list []⟩]
    onDuplicate := some ⟨[("c", some (.func "1'" []))], none⟩ }

/-- a comment between GROUP BY and the end of a line of HAVING -/
def dashed : Draft :=
  { fresh "" with
    table := some "t"
    groups := ["a --"]
    havings := [⟨.and, "it's\n", "", .list []⟩] }

/-- a text with a comment in it swallows HAVING and LIMIT in every statement; one that is quiet does harm within a
literal, and one without anything special does behind two dashes -/
theorem sorting_in_effect_swallowed :
    (∀ command ∈ commands, (∃ s, capped.compile command = .ok s ∧ s.Aligned) ∧
      ∃ s', (capped.recordEach none [.group "kind -- "]).1.compile command = .ok s' ∧ ¬Closed s'.text ∧
        s'.placeholders < s'.binds.length) ∧
    ((∃ s, spanned.compile (.insert .insert [("a", .bind (.int 1))]) = .ok s ∧ s.Aligned) ∧
      Quiet (Sanitize.orderField "" "\"'\"") ∧
      ∃ s', (spanned.recordEach none [.order "\"'\"" "asc"]).1.compile (.insert .insert [("a", .bind (.int 1))]) =
        .ok s' ∧ ¬Closed s'.text) ∧
    (∃ s, dashed.compile .select = .ok s ∧ s.Aligned) ∧
      ∃ s', (dashed.recordEach none [.group "b"]).1.compile .select = .ok s' ∧ ¬Closed s'.text := by
  refine ⟨?_, ⟨⟨_, rfl, ⟨by decide +kernel, by decide +kernel⟩⟩, by decide +kernel, _, rfl, by decide +kernel⟩,
    ⟨_, rfl, ⟨by decide +kernel, by decide +kernel⟩⟩, _, rfl, by decide +kernel⟩
  intro command hc
  simp only [commands, List.mem_cons, List.not_mem_nil, or_false] at hc
  rcases hc with rfl | rfl | rfl | rfl
  all_goals
    exact ⟨⟨_, rfl, ⟨by decide +kernel, by decide +kernel⟩⟩, _, rfl, by decide +kernel, by decide +kernel⟩

end Draft

end SqlSession.Query
