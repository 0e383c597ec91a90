import Mathlib.Algebra.GroupWithZero.Nat
import ProblemBoard.Proofs.Clauses

/-! # How clauses are put together

A text between blanks, brackets or commas is cut into the same tokens as on its own, and what is read of a text does
not change when more text follows. A text that is a conjunction of tests may therefore follow `AND` behind any
other condition: it adds its tests to the last alternative there.
-/

namespace ProblemBoard.Sql

section Characters

theorem quoting_append (inside : Bool) (front back : List Char) :
    quoting inside (front ++ back) = quoting inside front ++ quoting (quotesOpen inside front) back := by
  induction front generalizing inside with
  | nil => rfl
  | cons c rest step =>
    by_cases quote : c = '"' <;> simp [quoting, quotesOpen, quote, step]

theorem quotesOpen_append (inside : Bool) (front back : List Char) :
    quotesOpen inside (front ++ back) = quotesOpen (quotesOpen inside front) back := by
  induction front generalizing inside with
  | nil => rfl
  | cons c rest step => exact step _

theorem map_snd_quoting (inside : Bool) (chars : List Char) : (quoting inside chars).map Prod.snd = chars := by
  induction chars generalizing inside with
  | nil => rfl
  | cons c rest step =>
    by_cases quote : c = '"' <;> simp [quoting, quote, step]

/-- A character that never belongs to one lexeme with its neighbours. -/
def Loose (c : Bool × Char) : Prop := kind c ≠ .word ∧ kind c ≠ .sign

instance (c : Bool × Char) : Decidable (Loose c) := inferInstanceAs (Decidable (_ ∧ _))

theorem joins_eq_false_of_kind_ne {left right : Bool × Char} (differ : kind left ≠ kind right) :
    joins left right = false := by
  simp [joins, differ]

theorem Loose.joins_left {left : Bool × Char} (loose : Loose left) (right : Bool × Char) :
    joins left right = false := by
  simp [joins, loose.1, loose.2]

theorem Loose.joins_right {right : Bool × Char} (loose : Loose right) (left : Bool × Char) :
    joins left right = false := by
  by_cases same : kind left = kind right
  · exact Loose.joins_left (by rwa [Loose, same]) right
  · exact joins_eq_false_of_kind_ne same

/-- A text that keeps apart what stands on its two sides. -/
structure Separates (separator : List Char) : Prop where
  written : separator ≠ []
  first : ∀ c ∈ (quoting false separator).head?, Loose c
  last : ∀ c ∈ (quoting false separator).getLast?, Loose c

instance (separator : List Char) : Decidable (Separates separator) :=
  decidable_of_iff
    (separator ≠ [] ∧ (∀ c ∈ (quoting false separator).head?, Loose c) ∧
      ∀ c ∈ (quoting false separator).getLast?, Loose c)
    ⟨fun ⟨written, first, last⟩ => ⟨written, first, last⟩, fun ⟨written, first, last⟩ => ⟨written, first, last⟩⟩

end Characters

section Tokens

variable {front back separator : List Char} {earlier later between : List Token}

theorem quotesOpen_of_tokens? (cut : tokens? front = some earlier) : quotesOpen false front = false := by
  unfold tokens? at cut
  split at cut
  · cases cut
  · next closed => exact Bool.not_eq_true _ ▸ closed

/-- Texts that do not run into one another are cut apart. -/
theorem tokens?_append (first : tokens? front = some earlier) (second : tokens? back = some later)
    (apart : ∀ left ∈ (quoting false front).getLast?, ∀ right ∈ (quoting false back).head?, joins left right = false) :
    tokens? (front ++ back) = some (earlier ++ later) := by
  have closed := quotesOpen_of_tokens? first
  have still_closed := quotesOpen_of_tokens? second
  unfold tokens? at first second ⊢
  rw [closed] at first
  rw [still_closed] at second
  rw [quotesOpen_append, closed, still_closed, quoting_append, closed, List.splitBy_append apart, List.mapM_append]
  simp only [Bool.false_eq_true, if_false, Option.map_eq_some_iff] at first second ⊢
  obtain ⟨fronts, read_front, rfl⟩ := first
  obtain ⟨backs, read_back, rfl⟩ := second
  refine ⟨fronts ++ backs, ?_, List.flatten_append⟩
  rw [read_front, read_back]
  rfl

theorem head?_quoting_append (written : front ≠ []) :
    (quoting false (front ++ back)).head? = (quoting false front).head? := by
  cases front with
  | nil => exact absurd rfl written
  | cons c rest => by_cases quote : c = '"' <;> simp [quoting, quote]

theorem tokens?_before (separates : Separates separator) (middle : tokens? separator = some between)
    (first : tokens? front = some earlier) : tokens? (front ++ separator) = some (earlier ++ between) :=
  tokens?_append first middle fun left _ right head => (separates.first right head).joins_right left

theorem tokens?_after (ends : ∀ c ∈ (quoting false separator).getLast?, Loose c)
    (middle : tokens? separator = some between) (second : tokens? back = some later) :
    tokens? (separator ++ back) = some (between ++ later) :=
  tokens?_append middle second fun left last right _ => (ends left last).joins_left right

/-- Two texts with a separator between them. -/
theorem tokens?_separated (separates : Separates separator) (middle : tokens? separator = some between)
    (first : tokens? front = some earlier) (second : tokens? back = some later) :
    tokens? (front ++ (separator ++ back)) = some (earlier ++ (between ++ later)) := by
  refine tokens?_append first (tokens?_after separates.last middle second) fun left _ right head => ?_
  rw [head?_quoting_append separates.written] at head
  exact (separates.first right head).joins_right left

/-- Texts with a separator between any two of them. -/
theorem tokens?_intercalate {α : Type} (text : α → List Char) (tokens : α → List Token)
    (separates : Separates separator) (middle : tokens? separator = some between) {first : α} {rest : List α}
    (each : ∀ a ∈ first :: rest, tokens? (text a) = some (tokens a)) :
    tokens? (separator.intercalate ((first :: rest).map text)) =
      some (tokens first ++ rest.flatMap fun a => between ++ tokens a) := by
  induction rest generalizing first with
  | nil =>
    rw [List.map_singleton, List.intercalate_singleton, List.flatMap_nil, List.append_nil]
    exact each first List.mem_cons_self
  | cons second rest step =>
    have others := step fun a member => each a (List.mem_cons_of_mem _ member)
    rw [List.map_cons, List.map_cons, List.intercalate_cons_cons, ← List.map_cons, List.append_assoc,
      tokens?_separated separates middle (each first List.mem_cons_self) others, List.flatMap_cons, List.append_assoc]

theorem numbered_cons_of_ne {token : Token} (no_mark : token ≠ .placeholder) (next : Nat) (rest : List Token) :
    numbered next (token :: rest) = token :: numbered next rest := by
  rw [numbered]
  exact no_mark

theorem numbered_append (next : Nat) (front back : List Token) :
    numbered next (front ++ back) = numbered next front ++ numbered (next + front.count .placeholder) back := by
  fun_induction numbered next front with
  | case1 => rfl
  | case2 next rest step =>
    rw [List.cons_append, numbered, step, List.cons_append, List.count_cons_self]
    congr 3
    omega
  | case3 next token rest other step =>
    rw [List.cons_append, numbered_cons_of_ne other, step, List.cons_append, List.count_cons_of_ne other]

end Tokens

section Columns

variable {name : String} {part : List (Bool × Char)}

theorem kind_of_isNameChar {c : Char} (inName : isNameChar c = true) : kind (false, c) = .word := by
  have visible : [' ', '\t', '\n', '\x0c', '\r'].contains c = false := by
    by_contra blank
    simp only [Bool.not_eq_false, List.contains_iff_mem, List.mem_cons, List.not_mem_nil, or_false] at blank
    rcases blank with rfl | rfl | rfl | rfl | rfl <;> exact absurd inName (by decide)
  simp only [kind, visible, inName, Bool.true_or, Bool.false_eq_true, if_false, if_true]

theorem kind_of_mem_part (good : isPart part = true) {c : Bool × Char} (member : c ∈ part) : kind c = .word := by
  match part, good with
  | (true, first) :: rest, good =>
    have quoted : c.1 = true := by
      rcases List.mem_cons.mp member with rfl | later
      · rfl
      · exact List.all_eq_true.mp good c later
    obtain ⟨_, _⟩ := c
    cases quoted
    rfl
  | (false, first) :: rest, good =>
    simp only [isPart, Bool.and_eq_true, List.all_eq_true, Bool.not_eq_true'] at good
    rcases List.mem_cons.mp member with rfl | later
    · exact kind_of_isNameChar (by simp [isNameChar, good.1.1])
    · obtain ⟨open_quotes, inName⟩ := good.1.2 c later
      obtain ⟨_, _⟩ := c
      cases open_quotes
      exact kind_of_isNameChar inName

theorem kind_of_mem_name {chars : List (Bool × Char)} (good : isName chars = true) {c : Bool × Char}
    (member : c ∈ chars) : kind c = .word := by
  by_cases dot : c = (false, '.')
  · subst dot
    decide
  · obtain ⟨piece, found, inside⟩ := Text.exists_piece_of_mem member dot
    exact kind_of_mem_part (List.all_eq_true.mp good piece found) inside

theorem kind_of_mem_column (column : isColumn name = true) {c : Bool × Char} (member : c ∈ quoting false name.toList) :
    kind c = .word := by
  rw [isColumn, Bool.and_eq_true] at column
  exact kind_of_mem_name column.2 member

theorem tokens?_column (column : isColumn name = true) : tokens? name.toList = some [.operand (.column name)] := by
  have words := fun c => kind_of_mem_column (c := c) column
  rw [isColumn, Bool.and_eq_true, Bool.not_eq_true'] at column
  obtain ⟨closed, good⟩ := column
  have written : quoting false name.toList ≠ [] := by
    intro empty
    rw [empty] at good
    cases good
  have chained : (quoting false name.toList).IsChain fun left right => joins left right := by
    refine List.Pairwise.isChain ?_
    refine List.pairwise_of_forall_mem_list fun left inside right also => ?_
    simp [joins, words left inside, words right also]
  rw [tokens?, closed, List.splitBy_of_isChain written chained]
  have lexeme : lexemeTokens? (quoting false name.toList) = some [.operand (.column name)] := by
    match chars : quoting false name.toList, written with
    | first :: rest, _ =>
      have word : kind first = .word := words first (chars ▸ List.mem_cons_self)
      have whole : (first :: rest).map Prod.snd = name.toList := chars ▸ map_snd_quoting false name.toList
      simp [lexemeTokens?, word, wordToken?, whole, chars ▸ good]
  simp [lexeme]

example : isColumn "t.\"group\"" = true ∧ isColumn "t.group" = false := by decide

/-- A column in front of a sign or a blank. -/
theorem tokens?_column_append {back : List Char} {later : List Token} (column : isColumn name = true)
    (second : tokens? back = some later) (apart : ∀ right ∈ (quoting false back).head?, kind right ≠ .word) :
    tokens? (name.toList ++ back) = some (.operand (.column name) :: later) := by
  refine tokens?_append (tokens?_column column) second fun left last right head => ?_
  have word := kind_of_mem_column column (List.mem_of_mem_getLast? last)
  exact joins_eq_false_of_kind_ne (word ▸ (apart right head).symm)

end Columns

section Items

variable {front back more : List Token} {earlier later : List Item}

theorem list?_append {list : List Operand} (found : list? front = some (list, back)) (more : List Token) :
    list? (front ++ more) = some (list, back ++ more) := by
  fun_induction list? front generalizing list back with
  | case1 item rest =>
    cases found
    rfl
  | case2 item rest step =>
    obtain ⟨⟨items, others⟩, inner, same⟩ := Option.map_eq_some_iff.mp found
    cases same
    simp only [List.cons_append, list?, step inner, Option.map_some]
  | case3 => cases found

theorem test?_append {test : Test} (found : test? front = some (test, back)) (more : List Token) :
    test? (front ++ more) = some (test, back ++ more) := by
  unfold test? at found
  split at found
  case h_1 | h_2 | h_3 =>
    cases found
    rfl
  case h_4 | h_5 =>
    obtain ⟨⟨list, others⟩, inner, same⟩ := Option.map_eq_some_iff.mp found
    cases same
    simp only [List.cons_append, test?, list?_append inner, Option.map_some]
  case h_6 => cases found

theorem item?_of_test? {test : Test} (found : test? front = some (test, back)) :
    item? front = some (.test test, back) := by
  unfold item?
  split
  case h_7 => simp [found]
  all_goals cases found

theorem item?_append {item : Item} (found : item? front = some (item, back)) (more : List Token) :
    item? (front ++ more) = some (item, back ++ more) := by
  unfold item? at found
  split at found
  case h_7 =>
    obtain ⟨⟨test, others⟩, inner, same⟩ := Option.map_eq_some_iff.mp found
    cases same
    exact item?_of_test? (test?_append inner more)
  all_goals
    cases found
    rfl

theorem items?_cons {item : Item} (found : item? front = some (item, back)) :
    items? front = (items? back).map (item :: ·) := by
  fun_cases items? front with
  | case1 => cases found
  | case2 token rest other others again =>
    cases found.symm.trans again
    rfl
  | case3 token rest missed => cases found.symm.trans missed

theorem items?_test {test : Test} (found : test? front = some (test, back)) :
    items? front = (items? back).map (.test test :: ·) :=
  items?_cons (item?_of_test? found)

/-- What is read of a text does not change when more text follows. -/
theorem items?_append (first : items? front = some earlier) (second : items? back = some later) :
    items? (front ++ back) = some (earlier ++ later) := by
  fun_induction items? front generalizing earlier with
  | case1 =>
    cases first
    exact second
  | case2 token rest item others found step =>
    obtain ⟨items, read, rfl⟩ := Option.map_eq_some_iff.mp first
    rw [items?_cons (item?_append found back), step read]
    rfl
  | case3 => cases first

end Items

section Progress

variable {front back : List Item} {fronts backs : List Test} {before : Disjunction}

/-- A conjunction with more tests at its end. -/
def Conjunction.followedBy (front : Conjunction) (tests : List Test) : Conjunction := tests.foldl .and front

/-- A condition with more tests at the end of its last alternative. -/
def Disjunction.followedBy : Disjunction → List Test → Disjunction
  | .one conjunction, tests => .one (conjunction.followedBy tests)
  | .or front last, tests => .or front (last.followedBy tests)

/-- A condition with more alternatives of one test each. -/
def Disjunction.orElse (front : Disjunction) (tests : List Test) : Disjunction :=
  tests.foldl (fun front test => .or front (.one test)) front

/-- Items that add some tests to the conjuncts in front of them, whatever these are. -/
def AddTests (items : List Item) (tests : List Test) : Prop :=
  ∀ (level : Level) (outer : List (Opener × Level)), level.negations = 0 →
    ∃ here last, items.foldlM Progress.step (.before level outer) = some (.behind here last outer) ∧
      here.alternatives = level.alternatives ∧
      some (here.conjunction last) = tests.foldl (some <| .behind · ·) level.conjuncts

/-- Items that are a whole condition, at the beginning of a text or of brackets. -/
def Form (items : List Item) (condition : Disjunction) : Prop :=
  ∀ outer : List (Opener × Level), ∃ here last,
    items.foldlM Progress.step (.before .start outer) = some (.behind here last outer) ∧
      here.disjunction last = condition

theorem AddTests.test (test : Test) : AddTests [.test test] [test] := by
  intro level outer affirmed
  refine ⟨level, test, rfl, rfl, ?_⟩
  simp [Level.conjunction, affirmed, Nat.repeat]

theorem AddTests.and (first : AddTests front fronts) (second : AddTests back backs) :
    AddTests (front ++ .and :: back) (fronts ++ backs) := by
  intro level outer affirmed
  obtain ⟨here, last, run, same, joined⟩ := first level outer affirmed
  -- The second run starts with the conjuncts that the first one has gathered.
  obtain ⟨there, final, later_run, still_same, all_joined⟩ :=
    second ⟨here.alternatives, some (here.conjunction last), 0⟩ outer rfl
  refine ⟨there, final, ?_, still_same.trans same, ?_⟩
  · rw [List.foldlM_append, run]
    exact later_run
  · rw [all_joined, List.foldl_append, joined]

theorem foldl_behind (front : Conjunction) (tests : List Test) :
    tests.foldl (some <| .behind · ·) (some front) = some (front.followedBy tests) := by
  induction tests generalizing front with
  | nil => rfl
  | cons test rest step => exact step (.and front test)

theorem AddTests.form (first : Test) (rest : List Test) (add : AddTests front (first :: rest)) :
    Form front (.one ((Conjunction.one first).followedBy rest)) := by
  intro outer
  obtain ⟨here, last, run, same, joined⟩ := add .start outer rfl
  refine ⟨here, last, run, ?_⟩
  have whole : here.conjunction last = (Conjunction.one first).followedBy rest :=
    Option.some.inj (joined.trans (foldl_behind _ rest))
  rw [Level.disjunction, same, whole]
  rfl

theorem Form.or (first : Form front before) {test : Test} {rest : List Test} (second : AddTests back (test :: rest)) :
    Form (front ++ .or :: back) (.or before ((Conjunction.one test).followedBy rest)) := by
  intro outer
  obtain ⟨here, last, run, rfl⟩ := first outer
  obtain ⟨there, final, later_run, same, joined⟩ := second ⟨some (here.disjunction last), none, 0⟩ outer rfl
  refine ⟨there, final, ?_, ?_⟩
  · rw [List.foldlM_append, run]
    exact later_run
  · have whole : there.conjunction final = (Conjunction.one test).followedBy rest :=
      Option.some.inj (joined.trans (foldl_behind _ rest))
    rw [Level.disjunction, same, whole]
    rfl

/-- What begins with an opening bracket makes one test of a whole condition. -/
theorem Form.closed (form : Form front before) (opener : Opener) :
    AddTests (.opening opener :: (front ++ [.closing])) [opener.close before] := by
  intro level outer affirmed
  obtain ⟨here, last, run, rfl⟩ := form ((opener, level) :: outer)
  refine ⟨level, opener.close (here.disjunction last), ?_, rfl, ?_⟩
  · change (front ++ [Item.closing]).foldlM Progress.step (.before .start ((opener, level) :: outer)) = _
    rw [List.foldlM_append, run]
    rfl
  · simp [Level.conjunction, affirmed, Nat.repeat]

end Progress

section Reading

variable {text : String} {tokens : List Token} {items : List Item} {condition : Disjunction}

theorem exists_behind_of_finish? {progress : Progress} (finished : progress.finish? = some condition) :
    ∃ here last, progress = .behind here last [] ∧ here.disjunction last = condition := by
  unfold Progress.finish? at finished
  split at finished
  · next here last => exact ⟨here, last, rfl, Option.some.inj finished⟩
  · cases finished

theorem read_of_form (cut : tokens? text.toList = some tokens) (grouped : items? (numbered 0 tokens) = some items)
    (form : Form items condition) : read text = some condition := by
  obtain ⟨here, last, run, rfl⟩ := form []
  simp only [read, cut, grouped, run, Option.bind_eq_bind, Option.bind_some]
  rfl

/-- A text with some placeholders that is cut and grouped into items as described, wherever the numbers of its
placeholders begin. -/
def Groups (text : String) (count : Nat) (described : Nat → List Item → Prop) : Prop :=
  ∃ tokens, tokens? text.toList = some tokens ∧ tokens.count .placeholder = count ∧
    ∀ next, ∃ items, items? (numbered next tokens) = some items ∧ described next items

/-- A text that is a conjunction of tests. -/
def Conjoins (text : String) (count : Nat) (tests : Nat → List Test) : Prop :=
  Groups text count fun next items => AddTests items (tests next)

variable {count : Nat} {tests : Nat → List Test}

/-- What begins with an opening bracket makes one test of a whole condition, and takes no parameter itself. -/
theorem Groups.closed {forms : Nat → Disjunction} {begun : List Token}
    (groups : Groups text count fun next items => Form items (forms next)) (start : String) (opener : Opener)
    (ends : ∀ c ∈ (quoting false start.toList).getLast?, Loose c) (start_cut : tokens? start.toList = some begun)
    (opens : ∀ rest, item? (begun ++ rest) = some (.opening opener, rest))
    (plain : ∀ next rest, numbered next (begun ++ rest) = begun ++ numbered next rest)
    (none_counted : begun.count .placeholder = 0) :
    Conjoins (start ++ text ++ ")") count fun next => [opener.close (forms next)] := by
  obtain ⟨tokens, cut, counted, grouped⟩ := groups
  refine ⟨begun ++ (tokens ++ [.closing]), ?_, ?_, fun next => ?_⟩
  · rw [String.toList_append, String.toList_append, List.append_assoc]
    exact tokens?_after ends start_cut (tokens?_before (by decide) (by decide +kernel) cut)
  · simp [counted, none_counted]
  · obtain ⟨items, grouped, form⟩ := grouped next
    refine ⟨.opening opener :: (items ++ [.closing]), ?_, form.closed opener⟩
    have closed : items? (numbered next (tokens ++ [.closing])) = some (items ++ [.closing]) := by
      rw [numbered_append]
      exact items?_append grouped ((items?_cons rfl).trans (by simp [numbered, items?]))
    rw [plain, items?_cons (opens _), closed]
    rfl

theorem Groups.bracketed {forms : Nat → Disjunction}
    (groups : Groups text count fun next items => Form items (forms next)) :
    Conjoins ("(" ++ text ++ ")") count fun next => [.bracketed (forms next)] :=
  groups.closed "(" .bracket (by decide) (by decide : _ = some [.opening]) (fun _ => rfl) (fun _ _ => rfl) rfl

/-- One test is a whole condition too. -/
theorem Conjoins.groups {test : Nat → Test} (conjoins : Conjoins text count fun next => [test next]) :
    Groups text count fun next items => Form items (.one (.one (test next))) := by
  obtain ⟨tokens, cut, counted, grouped⟩ := conjoins
  refine ⟨tokens, cut, counted, fun next => ?_⟩
  obtain ⟨items, read, add⟩ := grouped next
  exact ⟨items, read, add.form (test next) []⟩

/-- Two texts with a separator between them, the placeholders of the second numbered after those of the first. -/
theorem Groups.separated {front back separator : String} {more : Nat} {item : Item}
    {described others joined : Nat → List Item → Prop} (first : Groups front count described)
    (second : Groups back more others) (token : Token) (separates : Separates separator.toList)
    (middle : tokens? separator.toList = some [token]) (no_mark : token ≠ .placeholder)
    (grouped : ∀ rest, item? (token :: rest) = some (item, rest))
    (join : ∀ next earlier later, described next earlier → others (next + count) later →
      joined next (earlier ++ item :: later)) :
    Groups (front ++ separator ++ back) (count + more) joined := by
  obtain ⟨tokens, cut, rfl, read⟩ := first
  obtain ⟨more_tokens, more_cut, rfl, more_read⟩ := second
  refine ⟨tokens ++ ([token] ++ more_tokens), ?_, ?_, fun next => ?_⟩
  · rw [String.toList_append, String.toList_append, List.append_assoc]
    exact tokens?_separated separates middle cut more_cut
  · rw [List.singleton_append, List.count_append, List.count_cons_of_ne no_mark]
  · obtain ⟨items, read, holds⟩ := read next
    obtain ⟨more_items, more_read, more_holds⟩ := more_read (next + tokens.count .placeholder)
    refine ⟨items ++ item :: more_items, ?_, join next items more_items holds more_holds⟩
    rw [List.singleton_append, numbered_append, numbered_cons_of_ne no_mark]
    exact items?_append read ((items?_cons (grouped _)).trans (congrArg (Option.map (item :: ·)) more_read))

/-- Two conjunctions with `AND` between them. -/
theorem Conjoins.and {front back : String} {more : Nat} {others : Nat → List Test} (first : Conjoins front count tests)
    (second : Conjoins back more others) :
    Conjoins (front ++ " AND " ++ back) (count + more) fun next => tests next ++ others (next + count) :=
  Groups.separated first second .and (by decide) (by decide) (by decide) (fun _ => rfl) fun _ _ _ add more =>
    add.and more

/-- One more alternative behind `OR`. -/
theorem Groups.or {front back : String} {more : Nat} {forms : Nat → Disjunction} {test : Nat → Test}
    (first : Groups front count fun next items => Form items (forms next))
    (second : Conjoins back more fun next => [test next]) :
    Groups (front ++ " OR " ++ back) (count + more) fun next items =>
      Form items (.or (forms next) (.one (test (next + count)))) :=
  first.separated second .or (by decide) (by decide) (by decide) (fun _ => rfl) fun _ _ _ form last => form.or last

section Joined

variable {α : Type} (written : α → String) (counted : α → Nat) (test : α → Nat → Test)

/-- Some tests, their parameters numbered from a number on. -/
def testsFrom (next : Nat) : List α → List Test
  | [] => []
  | a :: rest => test a next :: testsFrom (next + counted a) rest

variable {written counted test} {rest : List α}

/-- Tests with `AND` between them. -/
theorem Conjoins.all {front : String} (first : Conjoins front count tests)
    (each : ∀ a ∈ rest, Conjoins (written a) (counted a) fun next => [test a next]) :
    Conjoins (" AND ".intercalate (front :: rest.map written)) (count + (rest.map counted).sum) fun next =>
      tests next ++ testsFrom counted test (next + count) rest := by
  induction rest generalizing front count tests with
  | nil => simpa [testsFrom] using first
  | cons a rest ih =>
    have joined := ih (first.and (each a List.mem_cons_self)) fun b member => each b (List.mem_cons_of_mem _ member)
    rw [List.map_cons, List.map_cons, List.sum_cons, ← Nat.add_assoc]
    simpa [testsFrom, Nat.add_assoc] using joined

/-- Alternatives with `OR` between them. -/
theorem Groups.any {front : String} {forms : Nat → Disjunction}
    (first : Groups front count fun next items => Form items (forms next))
    (each : ∀ a ∈ rest, Conjoins (written a) (counted a) fun next => [test a next]) :
    Groups (" OR ".intercalate (front :: rest.map written)) (count + (rest.map counted).sum) fun next items =>
      Form items ((forms next).orElse (testsFrom counted test (next + count) rest)) := by
  induction rest generalizing front count forms with
  | nil => simpa [testsFrom, Disjunction.orElse] using first
  | cons a rest ih =>
    have joined := ih (first.or (each a List.mem_cons_self)) fun b member => each b (List.mem_cons_of_mem _ member)
    rw [List.map_cons, List.map_cons, List.sum_cons, ← Nat.add_assoc]
    simpa [testsFrom, Disjunction.orElse, Nat.add_assoc] using joined

end Joined

theorem Conjoins.placeholders_eq (conjoins : Conjoins text count tests) : placeholders text = some count := by
  obtain ⟨tokens, cut, counted, _⟩ := conjoins
  rw [placeholders, cut, Option.map_some, counted]

theorem Conjoins.read_eq (conjoins : Conjoins text count tests) {first : Test} {rest : List Test}
    (some_test : tests 0 = first :: rest) : read text = some (.one ((Conjunction.one first).followedBy rest)) := by
  obtain ⟨tokens, cut, _, grouped⟩ := conjoins
  obtain ⟨items, grouped, add⟩ := grouped 0
  rw [some_test] at add
  exact read_of_form cut grouped (add.form first rest)

/-- A conjunction behind `AND` adds its tests to the condition in front, its placeholders being numbered after those
in front. -/
theorem Conjoins.read_and (conjoins : Conjoins text count tests) {before : Disjunction} {front : String} {earlier : Nat}
    (front_read : read front = some before) (front_count : placeholders front = some earlier) :
    read (front ++ " AND " ++ text) = some (before.followedBy (tests earlier)) := by
  obtain ⟨front_tokens, front_cut, rfl⟩ := Option.map_eq_some_iff.mp front_count
  obtain ⟨tokens, cut, _, grouped⟩ := conjoins
  obtain ⟨items, grouped, add⟩ := grouped (front_tokens.count .placeholder)
  simp only [read, front_cut, Option.bind_eq_bind, Option.bind_some, Option.bind_eq_some_iff] at front_read
  -- Behind the front all brackets are closed, and its last alternative is still open for conjuncts.
  obtain ⟨front_items, front_grouped, progress, run, finished⟩ := front_read
  obtain ⟨here, last, rfl, rfl⟩ := exists_behind_of_finish? finished
  obtain ⟨there, final, later_run, same, joined⟩ :=
    add ⟨here.alternatives, some (here.conjunction last), 0⟩ [] rfl
  have all_cut : tokens? (front ++ " AND " ++ text).toList = some (front_tokens ++ ([.and] ++ tokens)) := by
    rw [String.toList_append, String.toList_append, List.append_assoc]
    exact tokens?_separated (by decide) (by decide) front_cut cut
  have all_grouped : items? (numbered 0 (front_tokens ++ ([.and] ++ tokens))) =
      some (front_items ++ .and :: items) := by
    rw [numbered_append]
    refine items?_append front_grouped ((items?_cons rfl).trans ?_)
    rw [Nat.zero_add]
    exact congrArg (Option.map (Item.and :: ·)) grouped
  have all_run : (front_items ++ .and :: items).foldlM Progress.step (.before .start []) =
      some (.behind there final []) := by
    rw [List.foldlM_append, run]
    exact later_run
  have whole : there.disjunction final =
      (here.disjunction last).followedBy (tests (front_tokens.count .placeholder)) := by
    rw [Level.disjunction, same, Option.some.inj (joined.trans (foldl_behind _ _)), Level.disjunction]
    cases here.alternatives <;> rfl
  simp only [read, all_cut, all_grouped, all_run, Option.bind_eq_bind, Option.bind_some, Progress.finish?, whole]

end Reading

section Truth

variable (tables : Tables) (params : List Int) (row : Row)

theorem both_assoc (a b c : Option Bool) :
    Condition.both (Condition.both a b) c = Condition.both a (Condition.both b c) := by
  rcases a with _ | _ | _ <;> rcases b with _ | _ | _ <;> rcases c with _ | _ | _ <;> rfl

theorem both_true (a : Option Bool) : Condition.both a (some true) = a := by
  rcases a with _ | _ | _ <;> rfl

theorem either_assoc (a b c : Option Bool) :
    Condition.either (Condition.either a b) c = Condition.either a (Condition.either b c) := by
  rcases a with _ | _ | _ <;> rcases b with _ | _ | _ <;> rcases c with _ | _ | _ <;> rfl

theorem either_false (a : Option Bool) : Condition.either a (some false) = a := by
  rcases a with _ | _ | _ <;> rfl

/-- Whether all of some tests hold. -/
def allTruth (tests : List Test) : Option Bool :=
  (tests.map (·.truthAmid tables params row)).foldr Condition.both (some true)

/-- Whether some of the tests hold. -/
def anyTruth (tests : List Test) : Option Bool :=
  (tests.map (·.truthAmid tables params row)).foldr Condition.either (some false)

variable {tables row}

/-- Tests hold as they do on their own, if the parameters of each stand at its place. -/
theorem truths_testsFrom {α : Type} {test : α → Nat → Test} {given : α → List Int} {truth : α → Option Bool}
    {list : List α} (each : ∀ a ∈ list, ∀ bound after : List Int,
      (test a bound.length).truthAmid tables (bound ++ given a ++ after) row = truth a) (bound after : List Int) :
    (testsFrom (fun a => (given a).length) test bound.length list).map
        (·.truthAmid tables (bound ++ list.flatMap given ++ after) row) = list.map truth := by
  induction list generalizing bound with
  | nil => rfl
  | cons a rest ih =>
    rw [List.forall_mem_cons] at each
    have here := each.1 bound (rest.flatMap given ++ after)
    have others := ih each.2 (bound ++ given a)
    rw [List.length_append] at others
    simp only [List.append_assoc] at here others
    simp only [testsFrom, List.map_cons, List.flatMap_cons, List.append_assoc, here, others]

variable (tables row)

theorem Conjunction.truth_followedBy (front : Conjunction) (tests : List Test) :
    (front.followedBy tests).truthAmid tables params row =
      Condition.both (front.truthAmid tables params row) (allTruth tables params row tests) := by
  induction tests generalizing front with
  | nil => exact (both_true _).symm
  | cons test rest step =>
    change ((Conjunction.and front test).followedBy rest).truthAmid tables params row = _
    rw [step, Conjunction.truthAmid, both_assoc]
    rfl

theorem Disjunction.truth_followedBy (before : Disjunction) (tests : List Test) :
    (before.followedBy tests).truth row params =
      before.truthWith row params (allTruth (fun _ _ => []) params row tests) := by
  cases before with
  | one conjunction => exact conjunction.truth_followedBy _ params row tests
  | or front last =>
    rw [Disjunction.followedBy, Disjunction.truth, Disjunction.truthAmid, last.truth_followedBy]
    rfl

theorem Disjunction.truth_orElse (front : Disjunction) (tests : List Test) :
    (front.orElse tests).truthAmid tables params row =
      Condition.either (front.truthAmid tables params row) (anyTruth tables params row tests) := by
  induction tests generalizing front with
  | nil => exact (either_false _).symm
  | cons test rest step =>
    change ((Disjunction.or front (.one test)).orElse rest).truthAmid tables params row = _
    rw [step, Disjunction.truthAmid, Conjunction.truthAmid, either_assoc]
    rfl

theorem Conjunction.leaves_followedBy (front : Conjunction) (tests : List Test) :
    (front.followedBy tests).leaves = front.leaves ++ tests.flatMap Test.leaves := by
  induction tests generalizing front with
  | nil => exact (List.append_nil _).symm
  | cons test rest step =>
    change ((Conjunction.and front test).followedBy rest).leaves = _
    rw [step, Conjunction.leaves, List.flatMap_cons, List.append_assoc]

theorem Disjunction.leaves_orElse (front : Disjunction) (tests : List Test) :
    (front.orElse tests).leaves = front.leaves ++ tests.flatMap Test.leaves := by
  induction tests generalizing front with
  | nil => exact (List.append_nil _).symm
  | cons test rest step =>
    change ((Disjunction.or front (.one test)).orElse rest).leaves = _
    rw [step, Disjunction.leaves, Conjunction.leaves, List.flatMap_cons, List.append_assoc]

end Truth

end ProblemBoard.Sql
