import DbFree.Errors
import DbFree.JsonExport
import DbFree.Trimming

/- The command language of the Redis editor: how a script is cut into commands and arguments,
and how the program writes an argument into one (integrations/redis.rs). -/
namespace DbFree.RedisCommands

open Texts SqlText
open Chars (isWhitespace)

section Reading

/-- `u8::from_str_radix` of two characters, which takes a plus sign in front of a digit. -/
def hexByte (high low : Char) : Option Char :=
  if high = '+' then (JsonText.hexDigit low).map Char.ofNat
  else do
    let first ← JsonText.hexDigit high
    let second ← JsonText.hexDigit low
    some (Char.ofNat (first * 16 + second))

/-- What a backslash in double quotes makes of the character behind it, `\x` apart. -/
def escaped (esc : Char) : Char :=
  match esc with
  | 'n' => '\n'
  | 'r' => '\r'
  | 't' => '\t'
  | 'a' => Char.ofNat 0x7
  | 'b' => Char.ofNat 0x8
  | other => other

mutual

/-- The tokenizer outside quotes. A token that is finished stands before those still to come. -/
def outside (current : Text) (inToken : Bool) : Text → Except Text (List Text)
  | [] => .ok (if inToken then [current] else [])
  | c :: rest =>
    if c = '"' then inDouble current rest
    else if c = '\'' then inSingle current rest
    else if isWhitespace c then
      if inToken then (outside [] false rest).map (current :: ·) else outside current false rest
    else outside (current ++ [c]) true rest

/-- The tokenizer in double quotes. -/
def inDouble (current : Text) : Text → Except Text (List Text)
  | [] => .error "unterminated double quote".toList
  | ['\\'] => .error "dangling backslash".toList
  | '"' :: rest => outside current true rest
  | '\\' :: 'x' :: high :: low :: rest =>
    match hexByte high low with
    | some byte => inDouble (current ++ [byte]) rest
    | none => inDouble (current ++ ['x']) (high :: low :: rest)
  | '\\' :: esc :: rest => inDouble (current ++ [escaped esc]) rest
  | c :: rest => inDouble (current ++ [c]) rest

/-- The tokenizer in single quotes. -/
def inSingle (current : Text) : Text → Except Text (List Text)
  | [] => .error "unterminated single quote".toList
  | '\'' :: rest => outside current true rest
  | '\\' :: '\'' :: rest => inSingle (current ++ ['\'']) rest
  | c :: rest => inSingle (current ++ [c]) rest

end

def tokenize (line : Text) : Except Text (List Text) := outside [] false line

/-- The commands of the lines from the one with index `lineNo` on. -/
def commandsFrom (lineNo : Nat) : List Text → Except AppError (List (List Text))
  | [] => .ok []
  | line :: later =>
    let trimmed := trim line
    if trimmed.isEmpty || startsWith trimmed "#" then commandsFrom (lineNo + 1) later
    else
      match tokenize trimmed with
      | .error msg =>
        .error (.invalidInput ("Line ".toList ++ decimal (lineNo + 1) ++ ": ".toList ++ msg))
      | .ok tokens => do
        let commands ← commandsFrom (lineNo + 1) later
        .ok (if tokens.isEmpty then commands else tokens :: commands)

def parseCommands (script : Text) : Except AppError (List (List Text)) :=
  commandsFrom 0 (JsonExport.strLines script)

example : parseCommands "SET a \"hi \\x41\"\n# no\nGET 'it\\'s'".toList =
    .ok [["SET".toList, "a".toList, "hi A".toList], ["GET".toList, "it's".toList]] := by
  rfl

end Reading

section Writing

/-- The characters an argument is put in quotes for. -/
def needsQuotes (c : Char) : Bool := isWhitespace c || c = '"' || c = '\'' || c = '\\'

def quotedChar (c : Char) : Text :=
  match c with
  | '"' => ['\\', '"']
  | '\\' => ['\\', '\\']
  | '\n' => ['\\', 'n']
  | '\r' => ['\\', 'r']
  | '\t' => ['\\', 't']
  | other => [other]

def quoteArg (raw : Text) : Text :=
  if !raw.isEmpty && !raw.any needsQuotes then raw
  else '"' :: (raw.flatMap quotedChar ++ ['"'])

/-- A command as the program writes it. -/
def commandLine (args : List Text) : Text := join [' '] (args.map quoteArg)

/-- A word a command begins with: characters that need no quotes, the first of them no comment
mark. -/
def CommandWord (word : Text) : Prop :=
  word ≠ [] ∧ (∀ c ∈ word, needsQuotes c = false) ∧ word.head? ≠ some '#'

theorem inDouble_quotedChar (current : Text) (c : Char) (rest : Text) :
    inDouble current (quotedChar c ++ rest) = inDouble (current ++ [c]) rest := by
  have short : ∀ esc, esc ≠ 'x' →
      inDouble current ('\\' :: esc :: rest) = inDouble (current ++ [escaped esc]) rest := by
    intro esc no_hex
    apply inDouble.eq_5
    intro high low later same
    exact absurd same no_hex
  unfold quotedChar
  split
  · exact short '"' (by decide)
  · exact short '\\' (by decide)
  · exact short 'n' (by decide)
  · exact short 'r' (by decide)
  · exact short 't' (by decide)
  · rename_i no_quote no_escape _ _ _
    rw [List.singleton_append, inDouble.eq_6]
    · exact fun same => absurd same no_escape
    · exact no_quote
    · exact fun _ _ _ same => absurd same no_escape
    · exact fun _ _ same => absurd same no_escape

theorem inDouble_quoted (raw current rest : Text) :
    inDouble current (raw.flatMap quotedChar ++ '"' :: rest) =
      outside (current ++ raw) true rest := by
  induction raw generalizing current with
  | nil => simp [inDouble]
  | cons c raw ih =>
    rw [List.flatMap_cons, List.append_assoc, inDouble_quotedChar, ih, List.append_assoc]
    rfl

theorem outside_bare (word current rest : Text) (inToken : Bool)
    (bare : ∀ c ∈ word, needsQuotes c = false) (begun : word = [] → inToken = true) :
    outside current inToken (word ++ rest) = outside (current ++ word) true rest := by
  induction word generalizing current inToken with
  | nil => simp [begun rfl]
  | cons c word ih =>
    have here := bare c List.mem_cons_self
    simp only [needsQuotes, Bool.or_eq_false_iff, decide_eq_false_iff_not] at here
    obtain ⟨⟨⟨solid, no_double⟩, no_single⟩, -⟩ := here
    rw [List.cons_append, outside, if_neg no_double, if_neg no_single, solid,
      if_neg Bool.false_ne_true]
    rw [ih _ true (fun d member => bare d (List.mem_cons_of_mem c member)) (fun _ => rfl),
      List.append_assoc]
    rfl

/-- A written argument is read back, whatever follows it. -/
theorem outside_quoteArg (raw rest : Text) :
    outside [] false (quoteArg raw ++ rest) = outside raw true rest := by
  unfold quoteArg
  split
  · rename_i plain
    simp only [Bool.and_eq_true, Bool.not_eq_true', List.isEmpty_eq_false_iff,
      List.any_eq_false, Bool.not_eq_true] at plain
    exact outside_bare raw [] rest false plain.2 fun empty => absurd empty plain.1
  · rw [List.cons_append, List.append_assoc, outside, if_pos rfl]
    exact inDouble_quoted raw [] rest

theorem commandLine_cons (arg next : Text) (args : List Text) :
    commandLine (arg :: next :: args) = quoteArg arg ++ ' ' :: commandLine (next :: args) := by
  simp [commandLine, join, List.intercalate_cons_cons]

theorem tokenize_commandLine (args : List Text) (some_arg : args ≠ []) :
    tokenize (commandLine args) = .ok args := by
  induction args with
  | nil => exact absurd rfl some_arg
  | cons arg args ih =>
    cases args with
    | nil =>
      have read := outside_quoteArg arg []
      rw [List.append_nil] at read
      simp [commandLine, join, tokenize, read, outside]
    | cons next args =>
      have later := ih (List.cons_ne_nil _ _)
      rw [tokenize] at later
      rw [commandLine_cons, tokenize, outside_quoteArg, outside, if_neg (by decide),
        if_neg (by decide), if_pos (by decide), if_pos rfl, later]
      rfl

/-- The first and the last character of a written argument are visible. -/
theorem quoteArg_ends (raw : Text) :
    (∀ c, (quoteArg raw).head? = some c → isWhitespace c = false) ∧
      (∀ c, (quoteArg raw).getLast? = some c → isWhitespace c = false) ∧ quoteArg raw ≠ [] := by
  unfold quoteArg
  split
  · rename_i plain
    simp only [Bool.and_eq_true, Bool.not_eq_true', List.isEmpty_eq_false_iff,
      List.any_eq_false, Bool.not_eq_true] at plain
    have solid : ∀ c ∈ raw, isWhitespace c = false := by
      intro c member
      have bare := plain.2 c member
      simp only [needsQuotes, Bool.or_eq_false_iff] at bare
      exact bare.1.1.1
    exact ⟨fun c first => solid c (List.mem_of_head? first),
      fun c last => solid c (List.mem_of_getLast? last), plain.1⟩
  · refine ⟨?_, ?_, List.cons_ne_nil _ _⟩
    · intro c first
      cases first
      rfl
    · intro c last
      rw [← List.cons_append, List.getLast?_append_of_ne_nil _ (List.cons_ne_nil _ _)] at last
      cases last
      rfl

theorem feed_not_mem_quotedChar (c : Char) : '\n' ∉ quotedChar c := by
  unfold quotedChar
  split
  · decide
  · decide
  · decide
  · decide
  · decide
  · rename_i _ _ no_feed _ _
    rw [List.mem_singleton]
    exact fun same => no_feed same.symm

theorem feed_not_mem_quoteArg (raw : Text) : '\n' ∉ quoteArg raw := by
  unfold quoteArg
  split
  · rename_i plain
    intro member
    simp only [Bool.and_eq_true, Bool.not_eq_true', List.any_eq_false, Bool.not_eq_true] at plain
    exact absurd (plain.2 _ member) (by decide)
  · simp only [List.mem_cons, List.mem_append, List.mem_flatMap, List.not_mem_nil, or_false, not_or,
      not_exists, not_and]
    exact ⟨by decide, fun c _ => feed_not_mem_quotedChar c, by decide⟩

theorem feedless_commandLine (args : List Text) : '\n' ∉ commandLine args := by
  induction args with
  | nil => exact List.not_mem_nil
  | cons arg args ih =>
    cases args with
    | nil => simpa [commandLine, join] using feed_not_mem_quoteArg arg
    | cons next args =>
      rw [commandLine_cons, List.mem_append, List.mem_cons, not_or, not_or]
      exact ⟨feed_not_mem_quoteArg arg, by decide, ih⟩

theorem commandLine_last (args : List Text) :
    ∀ c, (commandLine args).getLast? = some c → isWhitespace c = false := by
  induction args with
  | nil =>
    intro c last
    cases last
  | cons arg args ih =>
    cases args with
    | nil => simpa [commandLine, join] using (quoteArg_ends arg).2.1
    | cons next args =>
      intro c last
      have filled : commandLine (next :: args) ≠ [] := by
        cases args with
        | nil => simpa [commandLine, join] using (quoteArg_ends next).2.2
        | cons after args =>
          rw [commandLine_cons]
          exact List.append_ne_nil_of_left_ne_nil (quoteArg_ends next).2.2 _
      rw [commandLine_cons, List.getLast?_append_of_ne_nil _ (List.cons_ne_nil _ _),
        List.getLast?_cons_of_ne_nil filled] at last
      exact ih c last

theorem strLines_single {line : Text} (feedless : '\n' ∉ line) (filled : line ≠ []) :
    JsonExport.strLines line = [line] := by
  have whole : line.splitOn '\n' = [line] := by
    have own : ∀ piece ∈ [line], '\n' ∉ piece := by
      intro piece member
      rwa [List.mem_singleton.mp member]
    have cut := List.splitOn_intercalate '\n' own (List.cons_ne_nil _ _)
    rwa [List.intercalate_singleton] at cut
  simp [JsonExport.strLines, whole, filled]

theorem quoteArg_word {word : Text} (names : CommandWord word) : quoteArg word = word := by
  have bare : word.any needsQuotes = false := by
    rw [List.any_eq_false]
    intro c member
    rw [names.2.1 c member]
    exact Bool.false_ne_true
  rw [quoteArg, bare, List.isEmpty_eq_false_iff.mpr names.1]
  rfl

theorem commandLine_word {word : Text} (args : List Text) (names : CommandWord word) :
    ∃ c rest, commandLine (word :: args) = c :: rest ∧ isWhitespace c = false ∧ c ≠ '#' := by
  obtain ⟨c, rest, rfl⟩ := List.exists_cons_of_ne_nil names.1
  have visible := names.2.1 c List.mem_cons_self
  simp only [needsQuotes, Bool.or_eq_false_iff] at visible
  have no_comment : c ≠ '#' := fun same => names.2.2 (congrArg some same)
  cases args with
  | nil =>
    refine ⟨c, rest, ?_, visible.1.1.1, no_comment⟩
    simpa [commandLine, join] using quoteArg_word names
  | cons next args =>
    refine ⟨c, rest ++ ' ' :: commandLine (next :: args), ?_, visible.1.1.1, no_comment⟩
    rw [commandLine_cons, quoteArg_word names]
    rfl

/-- The program's own command, sent back through the editor's reader, is that command. -/
theorem parseCommands_commandLine (word : Text) (args : List Text) (names : CommandWord word) :
    parseCommands (commandLine (word :: args)) = .ok [word :: args] := by
  obtain ⟨c, rest, shape, visible, no_comment⟩ := commandLine_word args names
  have trimmed : trim (commandLine (word :: args)) = commandLine (word :: args) := by
    apply trim_of_ends
    · intro d first
      rw [shape] at first
      rw [← Option.some.inj first]
      exact visible
    · exact commandLine_last (word :: args)
  have runs : ((commandLine (word :: args)).isEmpty ||
      startsWith (commandLine (word :: args)) "#") = false := by
    rw [shape, List.isEmpty_cons, Bool.false_or]
    exact Bool.eq_false_iff.mpr fun comment =>
      no_comment (List.cons_prefix_cons.mp (List.isPrefixOf_iff_prefix.mp comment)).1.symm
  have filled : commandLine (word :: args) ≠ [] := by simp [shape]
  rw [parseCommands, strLines_single (feedless_commandLine _) filled, commandsFrom]
  simp only [trimmed, runs, Bool.false_eq_true, if_false,
    tokenize_commandLine (word :: args) (List.cons_ne_nil _ _)]
  rfl

theorem delete_reads :
    parseCommands (commandLine ["DEL".toList, "a \"b\\".toList, []]) =
      .ok [["DEL".toList, "a \"b\\".toList, []]] :=
  parseCommands_commandLine "DEL".toList ["a \"b\\".toList, []]
    ⟨by decide, by simp [needsQuotes, isWhitespace, Chars.within], by decide⟩

end Writing

end DbFree.RedisCommands
