import DbFree.EngineTransactions

/- Whether the scan of a script sees a transaction that its statements leave open. -/
namespace DbFree.Pooling

open Texts
open Destructive (has splitStatements)

/-- One statement of `scan`, its tokens read. -/
def scanTokens (dialect : Dialect) (hazard : Hazard) (toks : List Tok) : Hazard :=
  if (wordsOf toks).isEmpty then hazard
  else
    match dialect with
    | .postgres => scanPostgres hazard (wordsOf toks)
    | .mysql => scanMysql hazard (wordsOf toks) toks
    | .mssql => scanMssql hazard (wordsOf toks)

/-- The statements of a script as the scan cuts and reads them, those with words. -/
def scanReading (dialect : Dialect) (script : Text) : List (List Tok) :=
  ((splitStatements script).map fun statement => lex statement (dialect == .mysql)).filter
    fun toks => !(wordsOf toks).isEmpty

theorem scan_eq (dialect : Dialect) (script : Text) :
    scan script dialect = (scanReading dialect script).foldl (scanTokens dialect) .default := by
  rw [scan, scanReading]
  generalize Hazard.default = hazard
  induction splitStatements script generalizing hazard with
  | nil => rfl
  | cons statement rest hypothesis =>
    rw [List.foldl_cons, List.map_cons, hypothesis]
    by_cases wordless : (wordsOf (lex statement (dialect == .mysql))).isEmpty = true
    · rw [List.filter_cons_of_neg (by simpa using wordless)]
      have same : scanStatement dialect hazard statement = hazard := by
        show scanTokens dialect hazard (lex statement (dialect == .mysql)) = hazard
        exact if_pos wordless
      rw [same]
    · rw [List.filter_cons_of_pos (by simpa using wordless)]
      rfl

section LeftOpen

variable (h : Hazard) (w : List Text)

omit w in
theorem leftOpen_guarded (led called marked : Hazard)
    (unchanged : called.leftOpen = led.leftOpen) (same : marked.leftOpen = called.leftOpen)
    (first second : Bool) :
    (if first then led else if second then marked else called).leftOpen = led.leftOpen := by
  split
  · rfl
  · split
    · rw [same, unchanged]
    · exact unchanged

theorem scanPostgres_leftOpen : (scanPostgres h w).leftOpen =
    if isIn (w.headD []) ["BEGIN", "START"] then true
    else if isIn (w.headD []) ["COMMIT", "END", "ABORT"] then chains w
    else if isIn (w.headD []) ["ROLLBACK"] then
      if rollsBackTo w (w.tail.headD []) then h.leftOpen else chains w
    else h.leftOpen := by
  unfold scanPostgres
  extract_lets first second led called
  have unchanged : called.leftOpen = led.leftOpen := by
    unfold called
    split <;> rfl
  rw [leftOpen_guarded led called { called with transaction := true } unchanged rfl]
  simp only [led, apply_ite Hazard.leftOpen, ite_self]
  rfl

theorem scanMysql_leftOpen (toks : List Tok) : (scanMysql h w toks).leftOpen =
    if isIn (w.headD []) ["BEGIN"] then true
    else if isIn (w.headD []) ["START"] && isIn (w.tail.headD []) ["TRANSACTION"] then true
    else if isIn (w.headD []) ["COMMIT"] then chains w
    else if isIn (w.headD []) ["ROLLBACK"] then
      if rollsBackTo w (w.tail.headD []) then h.leftOpen else chains w
    else if isIn (w.headD []) ["SAVEPOINT", "RELEASE"] then h.leftOpen
    else if isIn (w.headD []) ["XA"] then true
    else if isIn (w.headD []) ["SET"] then
      if isIn (w.tail.headD []) ["GLOBAL", "PERSIST", "PERSIST_ONLY"] then h.leftOpen
      else if w.any fun t => endsWith t "AUTOCOMMIT" then true else h.leftOpen
    else h.leftOpen := by
  unfold scanMysql
  extract_lets first second led
  rw [leftOpen_guarded led led { led with state := true } rfl rfl]
  simp only [led, apply_ite Hazard.leftOpen, ite_self]
  rfl

theorem scanMssql_leftOpen : (scanMssql h w).leftOpen =
    if isIn (w.headD []) ["BEGIN"] &&
        (startsWith (w.tail.headD []) "TRAN" || isIn (w.tail.headD []) ["DISTRIBUTED"]) then true
    else if isIn (w.headD []) ["COMMIT", "ROLLBACK"] then false
    else if isIn (w.headD []) ["SAVE"] then h.leftOpen
    else if isIn (w.headD []) ["SET"] && has w "IMPLICIT_TRANSACTIONS" then true
    else h.leftOpen := by
  unfold scanMssql
  simp only [apply_ite Hazard.leftOpen]

end LeftOpen

theorem isIn_mem {word : Text} {table : List String} (named : isIn word table = true) :
    ∃ entry ∈ table, word = entry.toList := by
  obtain ⟨entry, member, same⟩ := List.any_eq_true.mp named
  exact ⟨entry, member, (beq_iff_eq.mp same).symm⟩

theorem isIn_mono {word : Text} {table other : List String} (named : isIn word table = true)
    (listed : table ⊆ other) : isIn word other = true := by
  obtain ⟨entry, member, same⟩ := List.any_eq_true.mp named
  exact List.any_eq_true.mpr ⟨entry, listed member, same⟩

theorem isIn_cons (word : Text) (entry : String) (table : List String) :
    isIn word (entry :: table) = (isIn word [entry] || isIn word table) := by
  simp [isIn]

theorem isIn_pair (word : Text) (entry other : String) :
    isIn word [entry, other] = true ↔ isIn word [entry] = true ∨ isIn word [other] = true := by
  simp [isIn]

/-- Whether the scan looks at what a `SET` says about `autocommit`. -/
def noticed (dialect : Dialect) (words : List Text) : Bool :=
  if dialect = .mysql then !isIn (nth words 1) ["GLOBAL", "PERSIST", "PERSIST_ONLY"]
  else has words "IMPLICIT_TRANSACTIONS"

/-- What the scan tells behind a statement, by the command it is for the engine. -/
def Tells (dialect : Dialect) (words : List Text) (before after : Bool) : Command → Prop
  | .start => after = true
  | .commit chain => dialect ≠ .mssql → chain = true → has words "NO" = false → after = true
  | .rollback chain =>
    chain = true → has words "NO" = false → has words "SAVEPOINT" = false → after = true
  | .rollbackTo => before = true →
    nth words 1 = "TO".toList ∨ has words "SAVEPOINT" = true → after = true
  | .rollbackNamed _ => True
  | .savepoint _ => before = true → after = true
  | .prepare => dialect = .postgres
  | .prepared => dialect = .postgres
  | .xa _ => after = true
  | .automatic on => dialect ≠ .postgres ∧
    (on = true → dialect = .mssql → before = true → after = true) ∧
    (on = false → noticed dialect words = true → after = true)
  | .other => before = true → after = true

theorem has_of_nth {words : List Text} {place : Nat} {keyword : String}
    (at_place : nth words place = keyword.toList) (nonempty : keyword.toList ≠ []) :
    has words keyword = true := by
  unfold nth at at_place
  cases found : words[place]? with
  | none =>
    rw [found] at at_place
    exact absurd at_place.symm nonempty
  | some word =>
    rw [found, Option.getD_some] at at_place
    rw [has, List.contains_iff_mem, ← at_place]
    exact List.mem_of_getElem? found

theorem has_afterNoise {words : List Text} {keyword : String}
    (there : has (afterNoise words) keyword = true) : has words keyword = true := by
  rw [has, List.contains_iff_mem] at there ⊢
  unfold afterNoise at there
  split at there
  · exact List.mem_of_mem_drop there
  · exact List.mem_of_mem_drop there

theorem chains_of_chained {words : List Text} (chain : chained (afterNoise words) = true)
    (no : has words "NO" = false) : chains words = true := by
  rw [chained, Bool.and_eq_true, beq_iff_eq, beq_iff_eq] at chain
  rw [chains, has_afterNoise (has_of_nth chain.2 (by decide)), no]
  rfl

theorem nth_one (words : List Text) : nth words 1 = words.tail.headD [] := by
  rcases words with _ | ⟨_, _ | ⟨_, _⟩⟩ <;> rfl

theorem rollsBackTo_of {words : List Text} (back : isIn (nth (afterNoise words) 0) ["TO"] = true)
    (spelled : nth words 1 = "TO".toList ∨ has words "SAVEPOINT" = true) :
    rollsBackTo words (words.tail.headD []) = true := by
  obtain ⟨entry, listed, back⟩ := isIn_mem back
  rw [List.mem_singleton.mp listed] at back
  rw [rollsBackTo, Bool.or_eq_true, Bool.and_eq_true, beq_iff_eq, ← nth_one]
  rcases spelled with direct | savepoint
  · exact .inl direct
  · exact .inr ⟨has_afterNoise (has_of_nth back (by decide)), savepoint⟩

theorem nth_drop (words : List Text) (count place : Nat) :
    nth (words.drop count) place = nth words (count + place) := by
  rw [nth, nth, List.getElem?_drop]

/-- A chained `ROLLBACK` goes back to no savepoint. -/
theorem second_of_chained {words : List Text} (chain : chained (afterNoise words) = true) :
    nth words 1 ≠ "TO".toList := by
  intro direct
  have plain : isIn (nth words 1) ["WORK", "TRANSACTION", "TRAN"] = false := by
    rw [direct]
    rfl
  rw [chained, Bool.and_eq_true, beq_iff_eq, afterNoise, plain, if_neg Bool.false_ne_true,
    nth_drop, direct] at chain
  exact absurd chain.1 (by decide)

/-- What a chained `ROLLBACK` leaves, where no savepoint is spoken of. -/
theorem rolled_of_chained {words : List Text} {before : Bool}
    (chain : chained (afterNoise words) = true) (no : has words "NO" = false)
    (savepoint : has words "SAVEPOINT" = false) :
    (if rollsBackTo words (words.tail.headD []) then before else chains words) = true := by
  have stays : rollsBackTo words (words.tail.headD []) = false := by
    rw [rollsBackTo, ← nth_one, savepoint, Bool.and_false, Bool.or_false]
    exact beq_false_of_ne (second_of_chained chain)
  rw [stays, if_neg Bool.false_ne_true]
  exact chains_of_chained chain no

theorem postgres_tells (h : Hazard) (w : List Text) :
    Tells .postgres w h.leftOpen (scanPostgres h w).leftOpen (commandPostgres w) := by
  unfold commandPostgres
  extract_lets first rest
  by_cases begins : (isIn first ["BEGIN"] || isIn first ["START"] &&
      isIn (nth w 1) ["TRANSACTION"]) = true
  · rw [if_pos begins, scanPostgres_leftOpen]
    have starts : isIn first ["BEGIN", "START"] = true := by
      rw [isIn_pair]
      rw [Bool.or_eq_true, Bool.and_eq_true] at begins
      exact begins.imp_right And.left
    exact if_pos starts
  rw [if_neg begins]
  by_cases commits : isIn first ["COMMIT", "END"] = true
  · rw [if_pos commits]
    by_cases prepared : isIn (nth rest 0) ["PREPARED"] = true
    · rw [if_pos prepared]
      rfl
    rw [if_neg prepared]
    intro _ chain no
    rw [scanPostgres_leftOpen]
    refine Eq.trans ?_ (chains_of_chained chain no)
    obtain ⟨entry, listed, (named : w.headD [] = entry.toList)⟩ := isIn_mem commits
    rw [List.mem_pair] at listed
    rw [named]
    rcases listed with rfl | rfl <;> rfl
  rw [if_neg commits]
  by_cases back : (isIn first ["ROLLBACK"] && isIn (nth rest 0) ["TO"]) = true
  · rw [if_pos back]
    intro before spelled
    rw [Bool.and_eq_true] at back
    obtain ⟨entry, listed, (named : w.headD [] = entry.toList)⟩ := isIn_mem back.1
    rw [scanPostgres_leftOpen, named, List.mem_singleton.mp listed, rollsBackTo_of back.2 spelled]
    exact before
  rw [if_neg back]
  by_cases rolls : isIn first ["ROLLBACK", "ABORT"] = true
  · rw [if_pos rolls]
    by_cases prepared : isIn (nth rest 0) ["PREPARED"] = true
    · rw [if_pos prepared]
      rfl
    rw [if_neg prepared]
    intro chain no savepoint
    obtain ⟨entry, listed, (named : w.headD [] = entry.toList)⟩ := isIn_mem rolls
    rw [List.mem_pair] at listed
    rw [scanPostgres_leftOpen, named]
    rcases listed with rfl | rfl
    · exact rolled_of_chained chain no savepoint
    · exact chains_of_chained chain no
  rw [if_neg rolls]
  have kept : h.leftOpen = true → (scanPostgres h w).leftOpen = true := by
    intro before
    rw [isIn_pair, not_or] at rolls commits
    have ends : ¬ isIn first ["COMMIT", "END", "ABORT"] = true := by
      rw [isIn_cons, Bool.or_eq_true, isIn_pair]
      tauto
    rw [scanPostgres_leftOpen, if_neg ends, if_neg rolls.1, before, ite_self]
  split_ifs
  · exact kept
  · rfl
  · exact kept

theorem ends_of_autocommitOf {session on : Bool} {words : List Text}
    (found : autocommitOf session words = some on) :
    (words.any fun t => endsWith t "AUTOCOMMIT") = true := by
  induction words generalizing session on with
  | nil => cases found
  | cons word rest hypothesis =>
    unfold autocommitOf at found
    extract_lets scope named at found
    rw [List.any_cons, Bool.or_eq_true]
    cases later : autocommitOf scope rest with
    | some last => exact .inr (hypothesis later)
    | none =>
      left
      rw [later] at found
      simp only [Option.orElse_eq_orElse, Option.orElse_eq_or, Option.none_or] at found
      have called : named = true := by
        by_contra unnamed
        rw [if_neg unnamed] at found
        cases found
      have spelled : isIn word ["AUTOCOMMIT", "@@AUTOCOMMIT", "@@SESSION.AUTOCOMMIT",
          "@@LOCAL.AUTOCOMMIT"] = true := by
        rw [isIn_cons, Bool.or_eq_true]
        rw [Bool.or_eq_true, Bool.and_eq_true] at called
        exact called.symm.imp_left And.right
      obtain ⟨entry, listed, spelled⟩ := isIn_mem spelled
      rw [spelled]
      simp only [List.mem_cons, List.not_mem_nil, or_false] at listed
      rcases listed with rfl | rfl | rfl | rfl <;> decide

theorem any_of_tail {words : List Text} {p : Text → Bool} (there : words.tail.any p = true) :
    words.any p = true := by
  cases words with
  | nil => exact there
  | cons word rest =>
    rw [List.any_cons, Bool.or_eq_true]
    exact .inr there

theorem mysql_tells (h : Hazard) (w : List Text) (toks : List Tok) :
    Tells .mysql w h.leftOpen (scanMysql h w toks).leftOpen (commandMysql w) := by
  unfold commandMysql
  extract_lets first rest
  by_cases begins : (isIn first ["BEGIN"] || isIn first ["START"] &&
      isIn (nth w 1) ["TRANSACTION"]) = true
  · rw [if_pos begins]
    show (scanMysql h w toks).leftOpen = true
    rw [scanMysql_leftOpen]
    rw [nth_one, Bool.or_eq_true] at begins
    rcases begins with begins | starts
    · exact if_pos begins
    · rw [if_pos starts, ite_self]
  rw [if_neg begins]
  by_cases commits : isIn first ["COMMIT"] = true
  · rw [if_pos commits]
    intro _ chain no
    obtain ⟨entry, listed, (named : w.headD [] = entry.toList)⟩ := isIn_mem commits
    rw [scanMysql_leftOpen, named, List.mem_singleton.mp listed]
    exact chains_of_chained chain no
  rw [if_neg commits]
  by_cases rolls : isIn first ["ROLLBACK"] = true
  · rw [if_pos rolls]
    obtain ⟨entry, listed, (named : w.headD [] = entry.toList)⟩ := isIn_mem rolls
    have left : (scanMysql h w toks).leftOpen =
        if rollsBackTo w (w.tail.headD []) then h.leftOpen else chains w := by
      rw [scanMysql_leftOpen, named, List.mem_singleton.mp listed]
      rfl
    rw [left]
    by_cases back : isIn (nth rest 0) ["TO"] = true
    · rw [if_pos back]
      intro before spelled
      rw [rollsBackTo_of back spelled]
      exact before
    · rw [if_neg back]
      intro chain no savepoint
      exact rolled_of_chained chain no savepoint
  rw [if_neg rolls]
  by_cases saves : isIn first ["SAVEPOINT", "RELEASE"] = true
  · rw [if_pos saves]
    obtain ⟨entry, listed, (named : w.headD [] = entry.toList)⟩ := isIn_mem saves
    rw [List.mem_pair] at listed
    rw [scanMysql_leftOpen, named]
    rcases listed with rfl | rfl <;> exact id
  rw [if_neg saves]
  by_cases xa : isIn first ["XA"] = true
  · rw [if_pos xa]
    obtain ⟨entry, listed, (named : w.headD [] = entry.toList)⟩ := isIn_mem xa
    rw [scanMysql_leftOpen, named, List.mem_singleton.mp listed]
    rfl
  rw [if_neg xa]
  have kept : h.leftOpen = true → (scanMysql h w toks).leftOpen = true := by
    intro before
    rw [scanMysql_leftOpen, if_neg commits, if_neg rolls, if_neg saves, if_neg xa, before]
    simp only [ite_self]
  by_cases sets : isIn first ["SET"] = true
  · rw [if_pos sets]
    cases found : autocommitOf true w.tail with
    | none => exact kept
    | some on =>
      refine ⟨by decide, fun _ other => absurd other (by decide), fun _ seen => ?_⟩
      have session : isIn (w.tail.headD []) ["GLOBAL", "PERSIST", "PERSIST_ONLY"] = false := by
        rw [← nth_one]
        exact (Bool.not_eq_true' _).mp seen
      obtain ⟨entry, listed, (named : w.headD [] = entry.toList)⟩ := isIn_mem sets
      rw [scanMysql_leftOpen, named, List.mem_singleton.mp listed, session, any_of_tail
        (ends_of_autocommitOf found)]
      rfl
  · rw [if_neg sets]
    exact kept

theorem mssql_tells (h : Hazard) (w : List Text) :
    Tells .mssql w h.leftOpen (scanMssql h w).leftOpen (commandMssql w) := by
  unfold commandMssql
  extract_lets first rest
  by_cases begins : (isIn first ["BEGIN"] &&
      isIn (nth w 1) ["TRAN", "TRANSACTION", "DISTRIBUTED"]) = true
  · rw [if_pos begins]
    show (scanMssql h w).leftOpen = true
    rw [scanMssql_leftOpen]
    rw [Bool.and_eq_true] at begins
    obtain ⟨entry, listed, named⟩ := isIn_mem begins.2
    rw [begins.1, ← nth_one, named]
    simp only [List.mem_cons, List.not_mem_nil, or_false] at listed
    rcases listed with rfl | rfl | rfl <;> rfl
  rw [if_neg begins]
  by_cases commits : isIn first ["COMMIT"] = true
  · rw [if_pos commits]
    exact fun other => absurd rfl other
  rw [if_neg commits]
  by_cases rolls : isIn first ["ROLLBACK"] = true
  · rw [if_pos rolls]
    split_ifs
    · intro chain
      cases chain
    · trivial
  rw [if_neg rolls]
  have kept : h.leftOpen = true → (scanMssql h w).leftOpen = true := by
    intro before
    have ends : ¬ isIn (w.headD []) ["COMMIT", "ROLLBACK"] = true := by
      rw [isIn_pair]
      exact not_or.mpr ⟨commits, rolls⟩
    rw [scanMssql_leftOpen, if_neg ends, before]
    simp only [ite_self]
  by_cases saves : isIn first ["SAVE"] = true
  · rw [if_pos saves]
    exact kept
  rw [if_neg saves]
  by_cases sets : (isIn first ["SET"] && (has w "IMPLICIT_TRANSACTIONS" || has w "ANSI_DEFAULTS")) =
      true
  · rw [if_pos sets]
    refine ⟨by decide, fun _ _ => kept, fun _ seen => ?_⟩
    rw [Bool.and_eq_true] at sets
    obtain ⟨entry, listed, (named : w.headD [] = entry.toList)⟩ := isIn_mem sets.1
    have there : has w "IMPLICIT_TRANSACTIONS" = true := seen
    rw [scanMssql_leftOpen, named, List.mem_singleton.mp listed, there]
    rfl
  · rw [if_neg sets]
    exact kept

theorem scanTokens_tells (dialect : Dialect) (h : Hazard) (toks : List Tok)
    (worded : (wordsOf toks).isEmpty = false) :
    Tells dialect (wordsOf toks) h.leftOpen (scanTokens dialect h toks).leftOpen
      (command dialect (wordsOf toks)) := by
  unfold scanTokens
  rw [worded, if_neg Bool.false_ne_true]
  cases dialect with
  | postgres => exact postgres_tells h _
  | mysql => exact mysql_tells h _ toks
  | mssql => exact mssql_tells h _

/-- The commands that begin a transaction, mark a place in one or hand one over, and those
that change the session's `autocommit` where the scan sees it. -/
def Command.Begins (seen : Bool) : Command → Prop
  | .start | .savepoint _ | .prepare | .xa _ => True
  | .automatic _ => seen = true
  | _ => False

section Any

variable (h : Hazard) (w : List Text)

omit h w in
theorem any_state (transaction leftOpen databaseSwitch : Bool) :
    (Hazard.mk transaction leftOpen true databaseSwitch).any = true := by
  simp [Hazard.any]

omit h w in
theorem any_switch (transaction leftOpen state : Bool) :
    (Hazard.mk transaction leftOpen state true).any = true := by
  simp [Hazard.any]

omit h w in
theorem any_ite {choice : Prop} [Decidable choice] {yes no : Hazard} (marked : yes.any = true)
    (other : no.any = true) : (if choice then yes else no).any = true := by
  split
  · exact marked
  · exact other

omit h w in
theorem any_guarded (led called marked : Hazard) (first second : Bool)
    (kept : led.any = true → called.any = true) (marks : marked.any = true)
    (there : led.any = true) :
    (if first then led else if second then marked else called).any = true := by
  split
  · exact there
  · split
    · exact marks
    · exact kept there

theorem any_scanPostgres (there : h.any = true ∨
    isIn (w.headD []) ["BEGIN", "START", "SAVEPOINT", "RELEASE", "PREPARE"] = true) :
    (scanPostgres h w).any = true := by
  unfold scanPostgres
  extract_lets first second led called
  apply any_guarded led called { called with transaction := true }
  · intro there
    unfold called
    split
    · exact any_state _ _ _
    · exact there
  · rfl
  rcases there with there | marks
  · unfold led
    repeat' apply any_ite
    all_goals first | exact there | rfl | exact any_state _ _ _
  · obtain ⟨entry, listed, (named : first = entry.toList)⟩ := isIn_mem marks
    unfold led
    rw [named]
    simp only [List.mem_cons, List.not_mem_nil, or_false] at listed
    rcases listed with rfl | rfl | rfl | rfl | rfl
    · rfl
    · rfl
    · rfl
    · rfl
    · exact any_state _ _ _

theorem any_scanMysql (toks : List Tok) (there : h.any = true ∨
    isIn (w.headD []) ["BEGIN", "SAVEPOINT", "RELEASE", "XA"] = true ∨
    isIn (w.headD []) ["START"] = true ∧ isIn (nth w 1) ["TRANSACTION"] = true ∨
    isIn (w.headD []) ["SET"] = true ∧ noticed .mysql w = true) :
    (scanMysql h w toks).any = true := by
  rw [nth_one] at there
  unfold scanMysql
  extract_lets first second led
  apply any_guarded led led { led with state := true }
  · exact id
  · exact any_state _ _ _
  rcases there with there | marks | ⟨starts, transaction⟩ | ⟨sets, seen⟩
  · unfold led
    repeat' apply any_ite
    all_goals first | exact there | rfl | exact any_state _ _ _ | exact any_switch _ _ _
  · obtain ⟨entry, listed, (named : first = entry.toList)⟩ := isIn_mem marks
    unfold led
    rw [named]
    simp only [List.mem_cons, List.not_mem_nil, or_false] at listed
    rcases listed with rfl | rfl | rfl | rfl <;> rfl
  · obtain ⟨entry, listed, (named : first = entry.toList)⟩ := isIn_mem starts
    unfold led
    rw [named, List.mem_singleton.mp listed, transaction]
    rfl
  · obtain ⟨entry, listed, (named : first = entry.toList)⟩ := isIn_mem sets
    have session : isIn second ["GLOBAL", "PERSIST", "PERSIST_ONLY"] = false := by
      rw [show second = nth w 1 from (nth_one w).symm]
      exact (Bool.not_eq_true' _).mp seen
    unfold led
    rw [named, List.mem_singleton.mp listed, session]
    show (if w.any fun t => endsWith t "AUTOCOMMIT" then
      { h with state := true, transaction := true, leftOpen := true }
      else { h with state := true }).any = true
    split
    · rfl
    · exact any_state _ _ _

theorem any_scanMssql (there : h.any = true ∨ isIn (w.headD []) ["SAVE"] = true ∨
    isIn (w.headD []) ["BEGIN"] = true ∧
      isIn (nth w 1) ["TRAN", "TRANSACTION", "DISTRIBUTED"] = true ∨
    isIn (w.headD []) ["SET"] = true ∧ noticed .mssql w = true) :
    (scanMssql h w).any = true := by
  rw [nth_one] at there
  unfold scanMssql
  extract_lets first second
  rcases there with there | saves | ⟨begins, transaction⟩ | ⟨sets, seen⟩
  · repeat' apply any_ite
    all_goals first | exact there | rfl
  · obtain ⟨entry, listed, (named : first = entry.toList)⟩ := isIn_mem saves
    rw [named, List.mem_singleton.mp listed]
    rfl
  · obtain ⟨entry, listed, named⟩ := isIn_mem transaction
    rw [begins, show second = entry.toList from named]
    simp only [List.mem_cons, List.not_mem_nil, or_false] at listed
    rcases listed with rfl | rfl | rfl <;> rfl
  · obtain ⟨entry, listed, (named : first = entry.toList)⟩ := isIn_mem sets
    have there : has w "IMPLICIT_TRANSACTIONS" = true := seen
    rw [named, List.mem_singleton.mp listed, there]
    rfl

theorem any_scanTokens (dialect : Dialect) (toks : List Tok) (there : h.any = true) :
    (scanTokens dialect h toks).any = true := by
  unfold scanTokens
  split
  · exact there
  cases dialect with
  | postgres => exact any_scanPostgres h _ (.inl there)
  | mysql => exact any_scanMysql h _ toks (.inl there)
  | mssql => exact any_scanMssql h _ (.inl there)

omit h in
theorem begins_postgres (begins : (commandPostgres w).Begins (noticed .postgres w)) :
    isIn (w.headD []) ["BEGIN", "START", "SAVEPOINT", "RELEASE", "PREPARE"] = true := by
  unfold commandPostgres at begins
  extract_lets first rest at begins
  split_ifs at begins with starts _ _ _ _ _ saves prepares
  all_goals try exact begins.elim
  · rw [Bool.or_eq_true, Bool.and_eq_true] at starts
    rcases starts with named | ⟨named, _⟩
    · exact isIn_mono named (by simp)
    · exact isIn_mono named (by simp)
  · exact isIn_mono saves (by simp)
  · exact isIn_mono ((Bool.and_eq_true _ _).mp prepares).1 (by simp)

omit h in
theorem begins_mysql (begins : (commandMysql w).Begins (noticed .mysql w)) :
    isIn (w.headD []) ["BEGIN", "SAVEPOINT", "RELEASE", "XA"] = true ∨
      isIn (w.headD []) ["START"] = true ∧ isIn (nth w 1) ["TRANSACTION"] = true ∨
      isIn (w.headD []) ["SET"] = true ∧ noticed .mysql w = true := by
  unfold commandMysql at begins
  extract_lets first rest at begins
  split_ifs at begins with starts _ _ _ saves xa sets
  all_goals try exact begins.elim
  · rw [Bool.or_eq_true, Bool.and_eq_true] at starts
    rcases starts with named | both
    · exact .inl (isIn_mono named (by simp))
    · exact .inr (.inl both)
  · exact .inl (isIn_mono saves (by simp))
  · exact .inl (isIn_mono xa (by simp))
  · cases found : autocommitOf true w.tail with
    | none =>
      rw [found] at begins
      exact begins.elim
    | some on =>
      rw [found] at begins
      exact .inr (.inr ⟨sets, begins⟩)

omit h in
theorem begins_mssql (begins : (commandMssql w).Begins (noticed .mssql w)) :
    isIn (w.headD []) ["SAVE"] = true ∨
      isIn (w.headD []) ["BEGIN"] = true ∧
        isIn (nth w 1) ["TRAN", "TRANSACTION", "DISTRIBUTED"] = true ∨
      isIn (w.headD []) ["SET"] = true ∧ noticed .mssql w = true := by
  unfold commandMssql at begins
  extract_lets first rest at begins
  split_ifs at begins with starts _ _ _ saves sets
  all_goals try exact begins.elim
  · exact .inr (.inl ((Bool.and_eq_true _ _).mp starts))
  · exact .inl saves
  · exact .inr (.inr ⟨((Bool.and_eq_true _ _).mp sets).1, begins⟩)

theorem any_of_begins (dialect : Dialect) (toks : List Tok)
    (worded : (wordsOf toks).isEmpty = false)
    (begins : (command dialect (wordsOf toks)).Begins (noticed dialect (wordsOf toks))) :
    (scanTokens dialect h toks).any = true := by
  unfold scanTokens
  rw [worded, if_neg Bool.false_ne_true]
  cases dialect with
  | postgres => exact any_scanPostgres h _ (.inr (begins_postgres _ begins))
  | mysql => exact any_scanMysql h _ toks (.inr (begins_mysql _ begins))
  | mssql => exact any_scanMssql h _ (.inr (begins_mssql _ begins))

theorem any_run (dialect : Dialect) (statements : List (List Tok))
    (worded : ∀ toks ∈ statements, (wordsOf toks).isEmpty = false)
    (begins : h.any = true ∨ ∃ toks ∈ statements,
      (command dialect (wordsOf toks)).Begins (noticed dialect (wordsOf toks))) :
    (statements.foldl (scanTokens dialect) h).any = true := by
  induction statements generalizing h with
  | nil =>
    rcases begins with there | ⟨_, member, _⟩
    · exact there
    · cases member
  | cons toks rest hypothesis =>
    rw [List.foldl_cons]
    apply hypothesis _ fun other member => worded other (List.mem_cons_of_mem _ member)
    rcases begins with there | ⟨other, member, begins⟩
    · exact .inl (any_scanTokens h dialect toks there)
    · rcases List.mem_cons.mp member with rfl | later
      · exact .inl (any_of_begins h dialect other (worded other member) begins)
      · exact .inr ⟨other, later, begins⟩

end Any

namespace Connection

/-- No statement is committed by itself, and no transaction has ended since. -/
def waits (connection : Connection) : Prop :=
  connection.manual = true ∧ connection.ended = false

/-- The scan counts with every transaction of the connection. -/
structure Covered (dialect : Dialect) (connection : Connection) (leftOpen : Bool) : Prop where
  opened : connection.isOpen = true → leftOpen = true
  waiting : connection.waits → leftOpen = true
  automatic : dialect = .postgres → connection.manual = false

instance (connection : Connection) : Decidable connection.waits :=
  inferInstanceAs (Decidable (_ ∧ _))

/-- The command leaves the scan right about a connection that it was right about. -/
def Foreseen (dialect : Dialect) (opens : Bool) (words : List Text) (connection : Connection) :
    Command → Prop
  | .commit chain =>
    if dialect = .mssql then connection.depth ≤ 1 else chain = true → has words "NO" = false
  | .rollback chain => chain = true → has words "NO" = false ∧ has words "SAVEPOINT" = false
  | .rollbackTo => connection.isOpen = true ∨ connection.waits →
    nth words 1 = "TO".toList ∨ has words "SAVEPOINT" = true
  | .rollbackNamed name =>
    name ∈ connection.saves → connection.isOpen = false ∧ ¬ connection.waits
  | .prepared => connection.isOpen = false
  | .automatic on => on = false → noticed dialect words = true
  | .other => opens = true → connection.manual = true → connection.isOpen = false →
    connection.ended = false
  | .start | .savepoint _ | .prepare | .xa _ => True

instance (dialect : Dialect) (opens : Bool) (words : List Text) (connection : Connection)
    (kind : Command) : Decidable (connection.Foreseen dialect opens words kind) :=
  match kind with
  | .commit _ => inferInstanceAs (Decidable (ite _ _ _))
  | .rollback _ => inferInstanceAs (Decidable (_ → _))
  | .rollbackTo => inferInstanceAs (Decidable (_ → _))
  | .rollbackNamed _ => inferInstanceAs (Decidable (_ → _))
  | .prepared => inferInstanceAs (Decidable (_ = _))
  | .automatic _ => inferInstanceAs (Decidable (_ → _))
  | .other => inferInstanceAs (Decidable (_ → _))
  | .start | .savepoint _ | .prepare | .xa _ => inferInstanceAs (Decidable True)

variable {dialect : Dialect} {connection : Connection} {before after : Bool}

theorem Covered.left (covered : Covered dialect connection before)
    (busy : connection.isOpen = true ∨ connection.waits) : before = true :=
  busy.elim covered.opened covered.waiting

/-- The connection stays, and the scan keeps what it counts with. -/
theorem Covered.keep (covered : Covered dialect connection before)
    (kept : connection.isOpen = true ∨ connection.waits → after = true) :
    Covered dialect connection after :=
  ⟨fun opened => kept (.inl opened), fun waits => kept (.inr waits), covered.automatic⟩

theorem finish_covered (covered : Covered dialect connection before) {chain : Bool}
    (left : chain = true → after = true) :
    Covered dialect (connection.finish dialect chain) after where
  opened opened := by
    apply left
    by_contra unchained
    rw [Bool.not_eq_true] at unchained
    subst unchained
    cases opened
  waiting waits := nomatch waits.2
  automatic := covered.automatic

theorem covered_step {opens : List Tok → Bool} {h : Hazard} {toks : List Tok}
    (covered : Covered dialect connection h.leftOpen)
    (worded : (wordsOf toks).isEmpty = false)
    (foreseen : connection.Foreseen dialect (opens toks) (wordsOf toks)
      (command dialect (wordsOf toks))) :
    Covered dialect (connection.step dialect opens toks) (scanTokens dialect h toks).leftOpen := by
  have told := scanTokens_tells dialect h toks worded
  unfold step
  generalize (scanTokens dialect h toks).leftOpen = after at told ⊢
  generalize h.leftOpen = before at told covered
  cases kind : command dialect (wordsOf toks) with
  | start =>
    rw [kind] at told
    exact ⟨fun _ => told, fun _ => told, covered.automatic⟩
  | commit chain =>
    simp only [kind, Foreseen] at told foreseen ⊢
    by_cases server : dialect = .mssql
    · rw [if_pos server] at foreseen ⊢
      have closed : connection.depth - 1 = 0 := by omega
      exact ⟨fun opened => by simp [isOpen, closed] at opened, fun waits => (nomatch waits.2),
        covered.automatic⟩
    · rw [if_neg server] at foreseen ⊢
      exact finish_covered covered fun chained => told server chained (foreseen chained)
  | rollback chain =>
    simp only [kind] at told foreseen
    exact finish_covered covered fun chained =>
      told chained (foreseen chained).1 (foreseen chained).2
  | rollbackTo =>
    simp only [kind] at told foreseen
    exact covered.keep fun busy => told (covered.left busy) (foreseen busy)
  | rollbackNamed name =>
    simp only [kind] at foreseen ⊢
    by_cases saved : name ∈ connection.saves
    · rw [if_pos saved]
      obtain ⟨closed, still⟩ := foreseen saved
      refine covered.keep fun busy => busy.elim (fun opened => ?_) fun waits => absurd waits still
      rw [closed] at opened
      cases opened
    · rw [if_neg saved]
      exact finish_covered covered fun unchained => nomatch unchained
  | savepoint name =>
    rw [kind] at told
    exact ⟨fun opened => told (covered.opened opened), fun waits => told (covered.waiting waits),
      covered.automatic⟩
  | prepare =>
    rw [kind] at told
    have automatic := covered.automatic told
    refine ⟨fun opened => (nomatch opened), fun waits => ?_, covered.automatic⟩
    exact absurd (automatic.symm.trans waits.1) Bool.false_ne_true
  | prepared =>
    simp only [kind] at told foreseen
    have automatic := covered.automatic told
    refine covered.keep fun busy => busy.elim (fun opened => ?_) fun waits => ?_
    · exact absurd (foreseen.symm.trans opened) Bool.false_ne_true
    · exact absurd (automatic.symm.trans waits.1) Bool.false_ne_true
  | xa phase =>
    simp only [kind] at told ⊢
    split_ifs <;> exact ⟨fun _ => told, fun _ => told, covered.automatic⟩
  | automatic on =>
    simp only [kind] at told foreseen
    obtain ⟨other, turnedOn, turnedOff⟩ := told
    cases on with
    | false =>
      have left := turnedOff rfl (foreseen rfl)
      exact ⟨fun _ => left, fun _ => left, fun postgres => absurd postgres other⟩
    | true =>
      refine ⟨fun opened => ?_, fun waits => (nomatch waits.1), fun _ => rfl⟩
      cases dialect with
      | postgres => exact absurd rfl other
      | mysql => cases opened
      | mssql => exact turnedOn rfl rfl (covered.opened opened)
  | other =>
    simp only [kind] at told foreseen ⊢
    split
    · rename_i begins
      rw [Bool.and_eq_true, Bool.and_eq_true, Bool.not_eq_true'] at begins
      have left := told (covered.waiting ⟨begins.1.1, foreseen begins.2 begins.1.1 begins.1.2⟩)
      exact ⟨fun _ => left, fun _ => left, covered.automatic⟩
    · exact covered.keep fun busy => told (covered.left busy)

theorem fresh_covered (dialect : Dialect) : Covered dialect fresh false :=
  ⟨fun opened => (nomatch opened), fun waits => (nomatch waits.1), fun _ => rfl⟩

/-- Every command is foreseen where the run has brought the connection. -/
def AllForeseen (dialect : Dialect) (opens : List Tok → Bool) : Connection → List (List Tok) → Prop
  | _, [] => True
  | connection, toks :: rest =>
    connection.Foreseen dialect (opens toks) (wordsOf toks) (command dialect (wordsOf toks)) ∧
      AllForeseen dialect opens (connection.step dialect opens toks) rest

instance decidableAllForeseen (dialect : Dialect) (opens : List Tok → Bool) :
    (connection : Connection) → (statements : List (List Tok)) →
      Decidable (AllForeseen dialect opens connection statements)
  | _, [] => inferInstanceAs (Decidable True)
  | connection, toks :: rest =>
    have := decidableAllForeseen dialect opens (connection.step dialect opens toks) rest
    inferInstanceAs (Decidable (_ ∧ _))

theorem covered_run {opens : List Tok → Bool} {statements : List (List Tok)} {h : Hazard}
    (covered : Covered dialect connection h.leftOpen)
    (worded : ∀ toks ∈ statements, (wordsOf toks).isEmpty = false)
    (foreseen : AllForeseen dialect opens connection statements) (count : Nat) :
    Covered dialect ((statements.take count).foldl (step dialect opens) connection)
      ((statements.take count).foldl (scanTokens dialect) h).leftOpen := by
  induction statements generalizing connection h count with
  | nil => simpa using covered
  | cons toks rest hypothesis =>
    cases count with
    | zero => exact covered
    | succ count =>
      rw [List.take_succ_cons, List.foldl_cons, List.foldl_cons]
      exact hypothesis (covered_step covered (worded toks (by simp)) foreseen.1)
        (fun other member => worded other (by simp [member])) foreseen.2 count

end Connection

/-- A statement that controls transactions, and one of those that the scan takes for a sign. -/
def Controls (dialect : Dialect) (toks : List Tok) : Prop :=
  command dialect (wordsOf toks) ≠ .other

def Marks (dialect : Dialect) (toks : List Tok) : Prop :=
  (command dialect (wordsOf toks)).Begins (noticed dialect (wordsOf toks))

/-- The scan reads the statements that the engine reads, each leaves it right where it comes,
and what controls transactions does not only end them. -/
structure ReadAlike (dialect : Dialect) (opens : List Tok → Bool) (script : Text) : Prop where
  reading : engineReading dialect script = scanReading dialect script
  foreseen : Connection.AllForeseen dialect opens .fresh (engineReading dialect script)
  marked : (∃ toks ∈ engineReading dialect script, Controls dialect toks) →
    ∃ toks ∈ engineReading dialect script, Marks dialect toks

/-- A chain and a savepoint, seen by the scan. -/
def chainedScript : Text :=
  "BEGIN; SAVEPOINT a; INSERT INTO t VALUES (1); ROLLBACK TO a; COMMIT AND CHAIN".toList

end DbFree.Pooling
