import DbFree.LiteralContents

/- Two scripts that differ in the content of literals and comments only: their verdicts
are the same exactly where no dollar quote stands before the deciding word. -/
namespace DbFree.Destructive

open Chars Texts Lexing

theorem agreed_split (tokens : List Tok) :
    (∀ token ∈ tokens, Agreed token) ∨
      ∃ before token after, tokens = before ++ token :: after ∧
        (∀ other ∈ before, Agreed other) ∧ ¬Agreed token := by
  induction tokens with
  | nil => exact Or.inl (by simp)
  | cons token later ih =>
    by_cases agreed : Agreed token
    · rcases ih with all | ⟨before, other, after, rfl, clear, stop⟩
      · exact Or.inl (by simpa using ⟨agreed, all⟩)
      · refine Or.inr ⟨token :: before, other, after, rfl, ?_, stop⟩
        simpa using ⟨agreed, clear⟩
    · exact Or.inr ⟨[], token, later, rfl, by simp, agreed⟩

theorem absorb_same (state : WordState) (token token' : Tok) (same : SameToken token token')
    (agreed : Agreed token) : absorb state token = absorb state token' := by
  obtain ⟨kind, chars⟩ := token
  obtain ⟨kind', chars'⟩ := token'
  obtain ⟨kinds, code⟩ := same
  dsimp only at kinds code
  subst kinds
  cases kind with
  | dollar tag => exact agreed.elim
  | shell => exact agreed.elim
  | quoted quote => rfl
  | lineComment => rfl
  | blockComment => rfl
  | _ =>
    have same : chars = chars' := code.resolve_left id
    rw [same]

theorem foldl_absorb_same (state : WordState) (tokens tokens' : List Tok)
    (same : List.Forall₂ SameToken tokens tokens') (agreed : ∀ token ∈ tokens, Agreed token) :
    tokens.foldl absorb state = tokens'.foldl absorb state := by
  induction same generalizing state with
  | nil => rfl
  | cons head tail ih =>
    rw [List.foldl_cons, List.foldl_cons,
      absorb_same state _ _ head (agreed _ List.mem_cons_self)]
    exact ih _ fun other member => agreed other (List.mem_cons_of_mem _ member)

theorem agreed_same (tokens tokens' : List Tok) (same : List.Forall₂ SameToken tokens tokens')
    (agreed : ∀ token ∈ tokens, Agreed token) : ∀ token ∈ tokens', Agreed token := by
  induction same with
  | nil => simp
  | @cons token token' later later' head tail ih =>
    have first := agreed token List.mem_cons_self
    have rest := ih fun other member => agreed other (List.mem_cons_of_mem _ member)
    rw [Agreed, head.kind] at first
    simpa using ⟨first, rest⟩

theorem tokenKind_dollar (c : Char) (rest tag : Text) (kind : tokenKind c rest = .dollar tag) :
    c = '$' ∧ dollarTag rest = some tag ∧ tokenLen c rest = dollarLen rest := by
  unfold tokenKind at kind
  unfold tokenLen
  by_cases quote : isQuote c = true
  · rw [if_pos quote] at kind
    cases kind
  by_cases line : startsLineComment c rest.head? = true
  · rw [if_neg quote, if_pos line] at kind
    cases kind
  by_cases block : startsBlockComment c rest.head? = true
  · rw [if_neg quote, if_neg line, if_pos block] at kind
    cases kind
  by_cases dollar : (c == '$') = true
  · rw [if_neg quote, if_neg line, if_neg block, if_pos dollar] at kind
    rw [if_neg quote, if_neg line, if_neg block, if_pos dollar]
    cases opens : dollarTag rest with
    | none => simp [opens] at kind
    | some tag' =>
      simp only [opens, TokenKind.dollar.injEq] at kind
      exact ⟨by simpa using dollar, by rw [kind], rfl⟩
  · rw [if_neg quote, if_neg line, if_neg block, if_neg dollar] at kind
    cases kind

/-- A dollar-quoted token begins with its tag. -/
theorem dollar_opens (fresh : Bool) (tag body rest : Text)
    (reads : scanner.ReadsOne fresh ⟨.dollar tag, body⟩ rest) :
    ∃ name more, tag = '$' :: name ++ ['$'] ∧ (∀ c ∈ name, isWordChar c = true) ∧
      body = tag ++ more := by
  obtain ⟨c, tail, shape, kind, extra⟩ := reads
  dsimp only at shape
  subst shape
  simp only [scanner] at kind extra
  by_cases white : (fresh && isWhitespace c) = true
  · rw [if_pos white] at kind
    cases kind
  by_cases shell : (fresh && startsShellCommand c (tail ++ rest).head?) = true
  · rw [if_neg white, if_pos shell] at kind
    cases kind
  by_cases separator : (c == ';') = true
  · rw [if_neg white, if_neg shell, if_pos separator] at kind
    cases kind
  rw [if_neg white, if_neg shell, if_neg separator] at kind extra
  obtain ⟨rfl, opens, length⟩ := tokenKind_dollar c _ tag kind
  obtain ⟨name, later, split, word, rfl⟩ := (dollarTag_eq_some_iff _ _).mp opens
  rw [length, dollarLen, opens] at extra
  have short : (name ++ ['$']).length ≤ tail.length := by
    simp only [List.length_append, List.length_cons, List.length_nil] at extra ⊢
    omega
  have opened : name ++ ['$'] <+: tail := by
    refine List.prefix_of_prefix_length_le ?_ (List.prefix_append tail rest) short
    exact ⟨later, by rw [split, List.append_assoc, List.singleton_append]⟩
  obtain ⟨more, rfl⟩ := opened
  exact ⟨name, more, rfl, word, by simp⟩

theorem bare_tag (name : Text) (word : ∀ c ∈ name, isWordChar c = true) :
    ∀ c ∈ '$' :: name ++ ['$'], Bare c := by
  have dollar : Bare '$' := by decide
  have inside : ∀ c ∈ name, Bare c := fun c member => bare_of_wordChar c (word c member)
  simpa [or_imp, forall_and, dollar] using inside

theorem tag_flushes (name : Text) (state : WordState) :
    (('$' :: name ++ ['$']).foldl WordState.plain state).word = [] := by
  rw [List.foldl_append]
  simp [WordState.plain, dollar_not_wordChar]

/-- A dollar quote carries its verdict as far as the words before its body decide it. -/
theorem kindOf_dollar (before after : List Tok) (tag body : Text)
    (reads : scanner.Reads true (before ++ ⟨.dollar tag, body⟩ :: after) [])
    (agreed : ∀ token ∈ before, Agreed token) :
    ∃ more, topLevelWords (text (before ++ ⟨.dollar tag, body⟩ :: after)) =
      (tag.foldl WordState.plain (before.foldl absorb .start)).words ++ more := by
  obtain ⟨front, back⟩ := (scanner.reads_append _ _ _ _).mp reads
  obtain ⟨name, more, rfl, word, rfl⟩ := dollar_opens _ _ _ _ back.1
  rw [topLevelWords, text_append, wordsLoop_tokens true .start before _ (by simpa using front) agreed,
    text_cons, List.append_assoc, wordsLoop_bare _ _ _ (bare_tag name word)]
  obtain ⟨more, words⟩ := words_wordsLoop 0
    (('$' :: name ++ ['$']).foldl WordState.plain (before.foldl absorb .start))
    (more ++ text after)
  exact ⟨more, words.symm⟩

theorem forall₂_split {α β : Type} {R : α → β → Prop} : ∀ {first second : List α} {other : List β},
    List.Forall₂ R (first ++ second) other → ∃ first' second', other = first' ++ second' ∧
      List.Forall₂ R first first' ∧ List.Forall₂ R second second'
  | [], _, other, same => ⟨[], other, rfl, .nil, same⟩
  | _ :: _, _, _, .cons head tail => by
    obtain ⟨first', second', rfl, same, same'⟩ := forall₂_split tail
    exact ⟨_ :: first', second', rfl, .cons head same, same'⟩

theorem kindOf_same (statement statement' : List Tok)
    (shape : ∃ run ending, statement = run ++ ending ∧ (∀ token ∈ run, ¬Boundary token) ∧
      (ending = [] ∨ ∃ token, ending = [token] ∧ token.kind = .shell))
    (reads : scanner.Reads true statement []) (reads' : scanner.Reads true statement' [])
    (same : List.Forall₂ SameToken statement statement')
    (settled : ∀ before tag body after, statement = before ++ ⟨.dollar tag, body⟩ :: after →
      (∀ token ∈ before, Agreed token) →
      decided (tag.foldl WordState.plain (before.foldl absorb .start)).words = true) :
    kindOf statement = kindOf statement' := by
  have front : ∀ (run more : List Tok), scanner.Reads true (run ++ more) [] →
      (∀ token ∈ run, Agreed token) →
      topLevelWords (text (run ++ more)) =
        (wordsLoop 0 (run.foldl absorb .start) (text more)).words := by
    intro run more reads agreed
    have part := ((scanner.reads_append _ _ _ _).mp reads).1
    rw [topLevelWords, text_append,
      wordsLoop_tokens true .start run (text more) (by simpa using part) agreed]
  rcases agreed_split statement with all | ⟨before, token, after, rfl, clear, stop⟩
  · have plain := front statement [] (by simpa using reads) all
    have plain' := front statement' [] (by simpa using reads')
      (agreed_same _ _ same all)
    rw [List.append_nil] at plain plain'
    rw [kindOf, kindOf, plain, plain', foldl_absorb_same .start _ _ same all]
  · obtain ⟨before', rest', rfl, sameBefore, sameRest⟩ := forall₂_split same
    cases sameRest with
    | @cons _ token' _ after' head tail =>
    obtain ⟨kind, chars⟩ := token
    obtain ⟨kind', chars'⟩ := token'
    obtain ⟨kinds, code⟩ := head
    dsimp only at kinds code
    subst kinds
    cases kind with
    | dollar tag =>
      obtain ⟨more, words⟩ := kindOf_dollar before after tag chars reads clear
      obtain ⟨more', words'⟩ := kindOf_dollar before' after' tag chars' reads'
        (agreed_same _ _ sameBefore clear)
      have enough := settled before tag chars after rfl clear
      rw [kindOf, kindOf, words, words', ← foldl_absorb_same .start _ _ sameBefore clear,
        classifyWords_of_decided _ _ enough, classifyWords_of_decided _ _ enough]
    | shell =>
      -- A shell line ends its statement.
      have last : after = [] := by
        obtain ⟨run, ending, split, inside, none | ⟨other, one, -⟩⟩ := shape
        · have member : (⟨.shell, chars⟩ : Tok) ∈ run := by
            rw [none, List.append_nil] at split
            simp [← split]
          exact absurd (Or.inr rfl) (inside _ member)
        · rcases List.eq_nil_or_concat after with empty | ⟨init, final, rfl⟩
          · exact empty
          · have member : (⟨.shell, chars⟩ : Tok) ∈ run := by
              rw [one, List.concat_eq_append, ← List.cons_append, ← List.append_assoc] at split
              rw [← (List.append_inj' split rfl).1]
              simp
            exact absurd (Or.inr rfl) (inside _ member)
      subst last
      cases tail
      have line : chars = chars' := code.resolve_left id
      subst line
      have words := front before _ reads clear
      have words' := front before' _ reads' (agreed_same _ _ sameBefore clear)
      rw [kindOf, kindOf, words, words', foldl_absorb_same .start _ _ sameBefore clear]
    | _ => exact (stop trivial).elim

theorem literal_visible (fresh : Bool) (token : Tok) (rest : Text)
    (reads : scanner.ReadsOne fresh token rest) (literal : Literal token.kind) :
    blank token.text = false := by
  obtain ⟨c, tail, shape, kind, -⟩ := reads
  by_contra hidden
  have white : isWhitespace c = true := by
    rw [shape, Bool.not_eq_false, blank, List.all_cons, Bool.and_eq_true] at hidden
    exact hidden.1
  have none : ¬Literal (scanner.kind fresh c (tail ++ rest)) := by
    simp only [scanner, tokenKind_whitespace c _ white]
    split
    · exact id
    · split
      · exact id
      · split <;> exact id
  exact none (kind ▸ literal)

theorem forall₂_mem {α β : Type} {R : α → β → Prop} {first : List α} {second : List β}
    (same : List.Forall₂ R first second) :
    List.Forall₂ (fun a b => R a b ∧ a ∈ first ∧ b ∈ second) first second := by
  induction same with
  | nil => exact .nil
  | cons head tail ih =>
    refine .cons ⟨head, List.mem_cons_self, List.mem_cons_self⟩ (ih.imp ?_)
    intro a b ⟨related, left, right⟩
    exact ⟨related, List.mem_cons_of_mem _ left, List.mem_cons_of_mem _ right⟩

/-- Scripts of one skeleton fall into statements of one skeleton. -/
theorem statements_same (sql sql' : Text) (same : SameSkeleton sql sql') :
    List.Forall₂ (fun statement statement' => List.Forall₂ SameToken statement statement' ∧
        blank (text statement) = blank (text statement'))
      (statementTokens [] (scanTokens sql)) (statementTokens [] (scanTokens sql')) := by
  let R : Tok → Tok → Prop := fun token token' =>
    SameToken token token' ∧ blank token.text = blank token'.text
  have related : List.Forall₂ R (scanTokens sql) (scanTokens sql') := by
    refine (forall₂_mem same).imp ?_
    rintro token token' ⟨alike, member, member'⟩
    refine ⟨alike, ?_⟩
    rcases alike.code with literal | code
    · obtain ⟨mode, rest, reads⟩ := scanner.readsOne_of_mem true sql token member
      obtain ⟨mode', rest', reads'⟩ := scanner.readsOne_of_mem true sql' token' member'
      rw [literal_visible mode token rest reads literal,
        literal_visible mode' token' rest' reads' (alike.kind ▸ literal)]
    · rw [code]
  have statements := statementTokens_related R (fun _ _ both => both.1.kind) (fun _ _ both => both.2)
    [] [] _ _ .nil related
  refine statements.imp fun statement statement' tokens => ?_
  refine ⟨tokens.imp fun _ _ both => both.1, ?_⟩
  induction tokens with
  | nil => rfl
  | cons head tail ih =>
    have first := head.2
    simp only [blank, text_cons, List.all_append] at ih first ⊢
    rw [first, ih]

theorem kinds_of_sameSkeleton (sql sql' : Text) (same : SameSkeleton sql sql')
    (settled : DollarQuotesDecided sql) : kinds sql' = kinds sql := by
  have alike : List.Forall₂ (fun statement statement' =>
      blank (text statement) = blank (text statement') ∧ kindOf statement = kindOf statement')
      (statementTokens [] (scanTokens sql)) (statementTokens [] (scanTokens sql')) := by
    refine (forall₂_mem (statements_same sql sql' same)).imp ?_
    rintro statement statement' ⟨⟨tokens, blanks⟩, member, member'⟩
    refine ⟨blanks, ?_⟩
    have shape := statementTokens_shape [] (scanTokens sql) (by simp) statement member
    have reads := reads_statement sql statement member
    have reads' := reads_statement sql' statement' member'
    exact kindOf_same statement statement' shape reads reads' tokens (settled statement member)
  rw [kinds_eq, kinds_eq]
  generalize statementTokens [] (scanTokens sql) = statements at alike
  generalize statementTokens [] (scanTokens sql') = statements' at alike
  induction alike with
  | nil => rfl
  | cons head tail ih =>
    rw [List.filter_cons, List.filter_cons, head.1]
    split
    · rw [List.map_cons, List.map_cons, head.2, ih]
    · exact ih

/-- A dollar-quoted token of any body without a dollar. -/
def dollarToken (name body : Text) : Tok :=
  ⟨.dollar ('$' :: name ++ ['$']), '$' :: name ++ ['$'] ++ body ++ ('$' :: name ++ ['$'])⟩

theorem closingLen_body (tag body rest : Text) (clear : '$' ∉ body) :
    closingLen ('$' :: tag) (body ++ ('$' :: tag ++ rest)) = body.length + (tag.length + 1) := by
  induction body with
  | nil =>
    have closes : ('$' :: tag).isPrefixOf ('$' :: (tag ++ rest)) = true := by
      rw [List.isPrefixOf_iff_prefix, ← List.cons_append]
      exact List.prefix_append _ _
    rw [List.nil_append, List.cons_append, closingLen, if_pos closes]
    simp
  | cons c body ih =>
    simp only [List.mem_cons, not_or] at clear
    have open₀ : ¬('$' :: tag).isPrefixOf (c :: (body ++ ('$' :: tag ++ rest))) = true := by
      simp [clear.1]
    rw [List.cons_append, closingLen, if_neg open₀, ih clear.2, List.length_cons]
    omega

theorem tokenKind_of_tag (rest tag : Text) (opens : dollarTag rest = some tag) :
    tokenKind '$' rest = .dollar tag := by
  simp [tokenKind, isQuote, startsLineComment, startsBlockComment, opens]

theorem tokenLen_dollar (rest : Text) : tokenLen '$' rest = dollarLen rest := by
  simp [tokenLen, isQuote, startsLineComment, startsBlockComment]

theorem reads_dollarToken (fresh : Bool) (name body rest : Text)
    (word : ∀ c ∈ name, isWordChar c = true) (clear : '$' ∉ body) :
    scanner.ReadsOne fresh (dollarToken name body) rest := by
  have white : isWhitespace '$' = false := by decide
  have split : name ++ ['$'] ++ body ++ ('$' :: name ++ ['$']) ++ rest =
      name ++ ['$'] ++ (body ++ ('$' :: (name ++ ['$']) ++ rest)) := by simp
  have opens : dollarTag (name ++ ['$'] ++ body ++ ('$' :: name ++ ['$']) ++ rest) =
      some ('$' :: name ++ ['$']) :=
    (dollarTag_eq_some_iff _ _).mpr
      ⟨name, body ++ ('$' :: name ++ ['$']) ++ rest, by simp, word, rfl⟩
  have size : ('$' :: name ++ ['$']).length - 1 = (name ++ ['$']).length := by simp
  obtain ⟨head, extra⟩ := scanner_token fresh '$'
    (name ++ ['$'] ++ body ++ ('$' :: name ++ ['$']) ++ rest) (by simp [white])
    (by simp [startsShellCommand]) (by decide)
  refine ⟨'$', name ++ ['$'] ++ body ++ ('$' :: name ++ ['$']), by simp [dollarToken], ?_, ?_⟩
  · exact (congrArg Token.kind head).trans (tokenKind_of_tag _ _ opens)
  · rw [extra, tokenLen_dollar, dollarLen, opens]
    dsimp only
    rw [size, split, List.drop_left, List.cons_append, closingLen_body _ _ _ clear]
    simp only [List.length_append, List.length_cons, List.length_nil]
    omega

/-- A body that hides every word behind it. -/
def hidingBody (count : Nat) : Text := List.replicate count '('

/-- A body that comes back to the words of the statement and adds the turning ones. -/
def turningBody (depth : Int) (count : Nat) : Text :=
  List.replicate depth.toNat ')' ++ List.replicate (-depth).toNat '(' ++
    "DROP WHERE INSERT ".toList ++ hidingBody count

theorem foldl_turning (words : List Text) (depth : Int) (count : Nat) :
    (turningBody depth count).foldl WordState.plain ⟨[], words, depth⟩ =
      ⟨[], words ++ turning, count⟩ := by
  have keywords : "DROP WHERE INSERT ".toList.foldl WordState.plain ⟨[], [], 0⟩ =
      ⟨[], turning, 0⟩ := by decide +kernel
  have ground : depth - (depth.toNat : Int) + ((-depth).toNat : Int) = 0 := by omega
  have here := before_foldl words ⟨[], [], 0⟩ "DROP WHERE INSERT ".toList
  rw [keywords, WordState.before, WordState.before, List.append_nil] at here
  rw [turningBody, List.foldl_append, List.foldl_append, List.foldl_append, foldl_close _ _ rfl,
    foldl_open _ _ rfl]
  dsimp only
  rw [ground, here, hidingBody, foldl_open _ _ rfl, Int.zero_add]

theorem bare_turningBody (depth : Int) (count : Nat) : ∀ c ∈ turningBody depth count, Bare c := by
  have keywords : ∀ c ∈ "DROP WHERE INSERT ".toList, Bare c :=
    forall_mem_of_all _ (by decide)
  have opening : Bare '(' := by decide
  have closing : Bare ')' := by decide
  intro c member
  simp only [turningBody, hidingBody, List.mem_append, List.mem_replicate] at member
  rcases member with ((⟨-, rfl⟩ | ⟨-, rfl⟩) | word) | ⟨-, rfl⟩
  · exact closing
  · exact opening
  · exact keywords c word
  · exact opening

theorem bare_hidingBody (count : Nat) : ∀ c ∈ hidingBody count, Bare c := by
  have opening : Bare '(' := by decide
  intro c member
  rwa [(List.mem_replicate.mp member).2]

section Replacing

variable (sql : Text) (before after : List Tok) (name body₀ : Text)

/-- Any body without a dollar may be put into a dollar quote of a script. -/
theorem replace_dollar (word : ∀ c ∈ name, isWordChar c = true)
    (member : before ++ ⟨.dollar ('$' :: name ++ ['$']), body₀⟩ :: after ∈
      statementTokens [] (scanTokens sql)) :
    ∃ earlier later, ∀ body, '$' ∉ body → ∃ sql', SameSkeleton sql sql' ∧
      kinds sql' = earlier ++ kindOf (before ++ dollarToken name body :: after) :: later ∧
      scanner.Reads true (before ++ dollarToken name body :: after) [] := by
  obtain ⟨front, back, earlier, others, split, focus⟩ :=
    statementTokens_focus [] (scanTokens sql) (by simp) _ member
  rw [List.nil_append] at split
  refine ⟨(earlier.filter fun statement => !blank (text statement)).map kindOf,
    (others.filter fun statement => !blank (text statement)).map kindOf, ?_⟩
  intro body clear
  have visible : blank (text (before ++ dollarToken name body :: after)) = false := by
    have dollar : isWhitespace '$' = false := by decide
    simp [blank, dollarToken, dollar]
  have statements := focus (before ++ dollarToken name body :: after)
    (by simp [dollarToken]) visible
  have reads : scanner.Reads true (front ++ (before ++ dollarToken name body :: after) ++ back)
      [] := by
    have whole := reads_scan sql
    rw [split, List.append_assoc, List.append_assoc, ← List.append_assoc front,
      scanner.reads_append, List.cons_append] at whole
    rw [List.append_assoc, List.append_assoc, ← List.append_assoc front,
      scanner.reads_append, List.cons_append]
    obtain ⟨-, more, tag, -, shape⟩ := dollar_opens _ _ _ _ whole.2.1
    refine ⟨?_, reads_dollarToken _ _ _ _ word clear, ?_⟩
    · have opens := whole.1
      rw [text_cons, shape] at opens
      exact reads_stands (standsFor_change '$' dollar_not_wordChar _ _) true _ opens
    · exact whole.2.2
  have tokens : scanTokens (text (front ++ (before ++ dollarToken name body :: after) ++ back)) =
      front ++ (before ++ dollarToken name body :: after) ++ back :=
    (scanner.tokens_text_iff true _).mpr reads
  refine ⟨text (front ++ (before ++ dollarToken name body :: after) ++ back), ?_, ?_, ?_⟩
  · have same : ∀ run : List Tok, List.Forall₂ SameToken run run :=
      fun run => List.forall₂_same.mpr fun token _ => ⟨rfl, Or.inr rfl⟩
    have changed : SameToken ⟨.dollar ('$' :: name ++ ['$']), body₀⟩ (dollarToken name body) :=
      ⟨rfl, Or.inl trivial⟩
    rw [SameSkeleton, tokens, split]
    exact List.rel_append (List.rel_append (same front) (List.rel_append (same before)
      (.cons changed (same after)))) (same back)
  · rw [kinds_eq, tokens, statements, List.filter_append, List.map_append, List.filter_cons,
      visible]
    simp
  · refine reads_statement (text (front ++ (before ++ dollarToken name body :: after) ++ back)) _ ?_
    rw [tokens, statements]
    simp

theorem words_dollarToken (body : Text) (word : ∀ c ∈ name, isWordChar c = true)
    (bare : ∀ c ∈ body, Bare c) (agreed : ∀ token ∈ before, Agreed token)
    (reads : scanner.Reads true (before ++ dollarToken name body :: after) []) :
    topLevelWords (text (before ++ dollarToken name body :: after)) =
      (wordsLoop 0 (body.foldl WordState.plain
        (('$' :: name ++ ['$']).foldl WordState.plain (before.foldl absorb .start)))
        ('$' :: name ++ ['$'] ++ text after)).words := by
  have part := ((scanner.reads_append _ _ _ _).mp reads).1
  rw [topLevelWords, text_append, wordsLoop_tokens true .start before _ (by simpa using part) agreed,
    text_cons, dollarToken, List.append_assoc, List.append_assoc,
    wordsLoop_bare _ _ _ (bare_tag name word), wordsLoop_bare _ _ _ bare]

/-- A dollar quote in front of the deciding words can be given a body that changes the
verdict of its statement. -/
theorem undecided_varies (word : ∀ c ∈ name, isWordChar c = true)
    (member : before ++ ⟨.dollar ('$' :: name ++ ['$']), body₀⟩ :: after ∈
      statementTokens [] (scanTokens sql))
    (agreed : ∀ token ∈ before, Agreed token)
    (undecided : decided (('$' :: name ++ ['$']).foldl WordState.plain
      (before.foldl absorb .start)).words = false) :
    ∃ sql', SameSkeleton sql sql' ∧ kinds sql' ≠ kinds sql := by
  obtain ⟨earlier, later, replace⟩ := replace_dollar sql before after name body₀ word member
  have flushed := tag_flushes name (before.foldl absorb .start)
  generalize state₀ : ('$' :: name ++ ['$']).foldl WordState.plain (before.foldl absorb .start) =
    state at undecided flushed
  have shape : state = ⟨[], state.words, state.depth⟩ := by rw [← flushed]
  -- Deep enough that nothing behind the body is read as a word of the statement.
  let count := state.depth.natAbs + ('$' :: name ++ ['$'] ++ text after).length + 1
  obtain ⟨hidden, skeleton, kinds₁, reads₁⟩ := replace (hidingBody count)
    (by simp [hidingBody])
  obtain ⟨turned, skeleton', kinds₂, reads₂⟩ := replace (turningBody state.depth count)
    (by simp [turningBody, hidingBody])
  have words₁ : topLevelWords (text (before ++ dollarToken name (hidingBody count) :: after)) =
      state.words := by
    rw [words_dollarToken before after name _ word (bare_hidingBody count) agreed reads₁, state₀,
      hidingBody, foldl_open _ _ flushed, wordsLoop_deep]
    dsimp only [count]
    omega
  have words₂ : topLevelWords (text (before ++
      dollarToken name (turningBody state.depth count) :: after)) = state.words ++ turning := by
    rw [words_dollarToken before after name _ word (bare_turningBody _ _) agreed reads₂, state₀]
    conv => lhs; rw [shape]
    rw [foldl_turning, wordsLoop_deep]
    dsimp only [count]
    omega
  by_contra never
  have fixed : ∀ sql', SameSkeleton sql sql' → kinds sql' = kinds sql := by
    intro sql' same
    by_contra other
    exact never ⟨sql', same, other⟩
  have same : kinds hidden = kinds turned :=
    (fixed hidden skeleton).trans (fixed turned skeleton').symm
  rw [kinds₁, kinds₂, List.append_cancel_left_eq, List.cons.injEq, kindOf, kindOf, words₁,
    words₂] at same
  exact classifyWords_of_undecided state.words undecided same.1.symm

end Replacing

/-- The content of literals and comments is invisible to the verdicts of a script exactly
when every dollar quote stands behind the words that decide its statement. -/
theorem contents_never_count_iff (sql : Text) :
    (∀ sql', SameSkeleton sql sql' → kinds sql' = kinds sql) ↔ DollarQuotesDecided sql := by
  constructor
  · intro fixed statement member before tag body after split agreed
    subst split
    by_contra undecided
    have reads := reads_statement sql _ member
    obtain ⟨name, more, rfl, word, -⟩ :=
      dollar_opens _ _ _ _ ((scanner.reads_append _ _ _ _).mp reads).2.1
    obtain ⟨sql', same, differs⟩ := undecided_varies sql before after name body word member agreed
      (by simpa using undecided)
    exact differs (fixed sql' same)
  · intro settled sql' same
    exact kinds_of_sameSkeleton sql sql' same settled

/-- A `WHERE` inside a dollar quote makes a `DELETE` of every row a bounded one. -/
theorem dollar_quote_counts : ¬∀ sql sql', SameSkeleton sql sql' → kinds sql' = kinds sql := by
  intro never
  have same : SameSkeleton "DELETE FROM t RETURNING $$x$$".toList
      "DELETE FROM t RETURNING $$ WHERE $$".toList := by decide +kernel
  have equal := never _ _ same
  revert equal
  decide +kernel

end DbFree.Destructive
