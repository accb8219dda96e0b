import DbFree.SplitterLossless

/- How far ahead one turn of the splitter looks: where its directive line and its dollar tag
fit in the characters held back, it does the same on a longer buffer. -/
namespace DbFree.SqlImport

open Chars SqlSplitter

/-- A run that ends before the end of a text is the same in a longer one. -/
theorem run_near (p : Char → Bool) {near far : Text} {start : Nat}
    (ends : start + ((near.drop start).takeWhile p).length < near.length ∨
      start + (((near ++ far).drop start).takeWhile p).length < near.length) :
    ((near ++ far).drop start).takeWhile p = (near.drop start).takeWhile p := by
  have inside : start ≤ near.length := by omega
  have rest_length : (near.drop start).length = near.length - start := List.length_drop
  rw [List.drop_append_of_le_length inside] at ends ⊢
  rw [List.takeWhile_append] at ends ⊢
  split at ends <;> rename_i whole
  · rw [List.length_append] at ends
    omega
  · rw [if_neg whole]

/-- What a parser finds in a buffer it finds in every longer one, and what it finds in a longer
one it finds as soon as that is there. -/
def Local {Found : Type} (size : Found → Nat) (parse : Text → Option Found) : Prop :=
  ∀ near far found, HOLD < near.length → (parse near = some found →
      size found ≤ near.length ∧ parse (near ++ far) = some found) ∧
    (parse (near ++ far) = some found → size found ≤ near.length → parse near = some found)

theorem Local.same {Found : Type} {size : Found → Nat} {parse : Text → Option Found}
    (local_parse : Local size parse) {near far : Text} (held : HOLD < near.length)
    (fits : ∀ found, parse (near ++ far) = some found → size found ≤ near.length) :
    parse near = parse (near ++ far) := by
  cases whole : parse (near ++ far) with
  | some found => exact (local_parse near far found held).2 whole (fits found whole)
  | none =>
    cases part : parse near with
    | none => rfl
    | some found => exact absurd (((local_parse near far found held).1 part).2.symm.trans whole) nofun

theorem restOfLineBlank_iff (buf : Text) (start used : Nat) :
    restOfLineBlank buf start false = some used ↔
      ∃ feed rest, (feed = ['\n'] ∨ feed = ['\r', '\n']) ∧
        buf.drop (start + ((buf.drop start).takeWhile isBlank).length) = feed ++ rest ∧
        used = start + ((buf.drop start).takeWhile isBlank).length + feed.length := by
  unfold restOfLineBlank
  dsimp only
  generalize ((buf.drop start).takeWhile isBlank).length = blanks
  constructor
  · intro found
    split at found
    · rename_i rest behind
      exact ⟨['\n'], rest, .inl rfl, behind, (Option.some.inj found).symm⟩
    · rename_i rest behind
      exact ⟨['\r', '\n'], rest, .inr rfl, behind, (Option.some.inj found).symm⟩
    · cases found
    · cases found
  · rintro ⟨feed, rest, rfl | rfl, behind, rfl⟩
    · rw [behind]
      rfl
    · rw [behind]
      rfl

/-- A text that starts a longer one starts what of it is long enough. -/
theorem split_near {near far front rest : Text} (whole : near ++ far = front ++ rest)
    (inside : front.length ≤ near.length) : ∃ more, near = front ++ more := by
  have prefixed : front <+: near :=
    List.prefix_of_prefix_length_le ⟨rest, whole.symm⟩ (List.prefix_append near far) inside
  obtain ⟨more, same⟩ := prefixed
  exact ⟨more, same.symm⟩

theorem restOfLineBlank_local (start : Nat) :
    Local id fun buf => restOfLineBlank buf start false := by
  intro near far used _
  simp only [restOfLineBlank_iff, id]
  constructor
  · rintro ⟨feed, rest, fed, behind, used_eq⟩
    have some : 1 ≤ feed.length := by rcases fed with rfl | rfl <;> decide
    have lengths := congrArg List.length behind
    rw [List.length_drop, List.length_append] at lengths
    have same : ((near ++ far).drop start).takeWhile isBlank =
        (near.drop start).takeWhile isBlank := run_near isBlank (.inl (by omega))
    refine ⟨by omega, feed, rest ++ far, fed, ?_, by rw [same]; exact used_eq⟩
    rw [same, List.drop_append_of_le_length (by omega), behind, List.append_assoc]
  · rintro ⟨feed, rest, fed, behind, used_eq⟩ inside
    have some : 1 ≤ feed.length := by rcases fed with rfl | rfl <;> decide
    have same : ((near ++ far).drop start).takeWhile isBlank =
        (near.drop start).takeWhile isBlank := run_near isBlank (.inr (by omega))
    rw [same] at behind used_eq
    rw [List.drop_append_of_le_length (by omega)] at behind
    obtain ⟨more, near_eq⟩ := split_near behind (by rw [List.length_drop]; omega)
    exact ⟨feed, more, fed, near_eq, used_eq⟩

theorem matchesWord_near {near : Text} (far : Text) (word : String)
    (inside : word.length ≤ near.length) :
    matchesWord (near ++ far) word = matchesWord near word := by
  rw [matchesWord, matchesWord, List.take_append_of_le_length inside]

theorem parseSlash_local : Local id fun buf => parseSlash buf false := by
  intro near far used held
  have same := restOfLineBlank_local 1 near far used held
  have head : (near ++ far).head? = near.head? := by
    apply List.head?_append_of_ne_nil
    rw [← List.length_pos_iff]
    omega
  simp only [parseSlash, head]
  split
  · exact ⟨nofun, nofun⟩
  · exact same

theorem restOfLineBlank_lt {buf : Text} {start used : Nat}
    (found : restOfLineBlank buf start false = some used) :
    start + ((buf.drop start).takeWhile isBlank).length < used := by
  obtain ⟨feed, rest, fed, -, used_eq⟩ := (restOfLineBlank_iff buf start used).mp found
  rcases fed with rfl | rfl
  · rw [used_eq]
    exact Nat.lt_succ_self _
  · rw [used_eq]
    exact Nat.lt_add_of_pos_right (by decide)

theorem parseGo_local : Local id fun buf => parseGo buf false := by
  intro near far used held
  have long : 160 < near.length := held
  have word := matchesWord_near far "GO" (Nat.le_trans (by decide : "GO".length ≤ 160) long.le)
  have head : ((near ++ far).drop 2).head? = (near.drop 2).head? := by
    rw [List.drop_append_of_le_length (by omega)]
    apply List.head?_append_of_ne_nil
    rw [← List.length_pos_iff, List.length_drop]
    omega
  simp only [parseGo, word, head]
  split
  · exact ⟨by simp, by simp⟩
  split
  · exact ⟨by simp, by simp⟩
  constructor
  · intro found
    have before := restOfLineBlank_lt found
    obtain ⟨inside, whole⟩ := (restOfLineBlank_local _ near far used held).1 found
    have blanks : ((near ++ far).drop 2).takeWhile isBlank = (near.drop 2).takeWhile isBlank :=
      run_near isBlank (.inl (by simp only [id] at inside; omega))
    rw [blanks]
    have digits : ((near ++ far).drop (2 + ((near.drop 2).takeWhile isBlank).length)).takeWhile
        Char.isDigit = (near.drop (2 + ((near.drop 2).takeWhile isBlank).length)).takeWhile
          Char.isDigit := run_near Char.isDigit (.inl (by simp only [id] at inside; omega))
    rw [digits]
    exact ⟨inside, whole⟩
  · intro found inside
    have before := restOfLineBlank_lt found
    simp only [id] at inside
    have blanks : ((near ++ far).drop 2).takeWhile isBlank = (near.drop 2).takeWhile isBlank :=
      run_near isBlank (.inr (by omega))
    rw [blanks] at found before
    have digits : ((near ++ far).drop (2 + ((near.drop 2).takeWhile isBlank).length)).takeWhile
        Char.isDigit = (near.drop (2 + ((near.drop 2).takeWhile isBlank).length)).takeWhile
          Char.isDigit := run_near Char.isDigit (.inr (by omega))
    rw [digits] at found
    exact (restOfLineBlank_local _ near far used held).2 found inside

/-- A `DELIMITER` line: the characters it spans and its token, of whatever length. -/
def delimiterSpan (buf : Text) (last : Bool) : Option (Nat × Text) :=
  if !matchesWord buf "DELIMITER" || !(buf.drop 9).head?.any isBlank then none
  else
    let blanks := ((buf.drop 9).takeWhile isBlank).length
    let token := (buf.drop (9 + blanks)).takeWhile fun c => !isWhitespace c
    if token.isEmpty then none
    else (restOfLineBlank buf (9 + blanks + token.length) last).map fun used => (used, token)

theorem parseDelimiter_congr {buf longer : Text} {last last' : Bool}
    (same : delimiterSpan buf last = delimiterSpan longer last') :
    parseDelimiter buf last = parseDelimiter longer last' := by
  have spanned : ∀ buf last, parseDelimiter buf last =
      match delimiterSpan buf last with
      | none => .ok none
      | some (used, token) =>
        if token.length > MAX_DELIMITER then
          .error (.invalidInput ("A DELIMITER is longer than ".toList ++ decimal MAX_DELIMITER ++
            " characters.".toList))
        else .ok (some (used, token)) := by
    intro buf last
    unfold parseDelimiter delimiterSpan
    split
    · rfl
    dsimp only
    split
    · rfl
    · cases restOfLineBlank buf _ last <;> rfl
  rw [spanned, spanned, same]

theorem delimiterSpan_local : Local Prod.fst fun buf => delimiterSpan buf false := by
  intro near far ⟨used, token⟩ held
  have long : 160 < near.length := held
  have word := matchesWord_near far "DELIMITER"
    (Nat.le_trans (by decide : "DELIMITER".length ≤ 160) long.le)
  have head : ((near ++ far).drop 9).head? = (near.drop 9).head? := by
    rw [List.drop_append_of_le_length (by omega)]
    apply List.head?_append_of_ne_nil
    rw [← List.length_pos_iff, List.length_drop]
    omega
  simp only [delimiterSpan, word, head]
  split
  · exact ⟨nofun, nofun⟩
  constructor
  · intro found
    split at found
    · cases found
    rename_i real
    obtain ⟨line, ended, both⟩ := Option.map_eq_some_iff.mp found
    obtain ⟨rfl, rfl⟩ := Prod.mk.inj both
    have before := restOfLineBlank_lt ended
    obtain ⟨inside, whole⟩ := (restOfLineBlank_local _ near far line held).1 ended
    simp only [id] at inside
    have blanks : ((near ++ far).drop 9).takeWhile isBlank = (near.drop 9).takeWhile isBlank :=
      run_near isBlank (.inl (by omega))
    rw [blanks]
    have token : ((near ++ far).drop (9 + ((near.drop 9).takeWhile isBlank).length)).takeWhile
        (fun c => !isWhitespace c) = (near.drop (9 + ((near.drop 9).takeWhile
          isBlank).length)).takeWhile fun c => !isWhitespace c := run_near _ (.inl (by omega))
    rw [token, if_neg real]
    exact ⟨inside, Option.map_eq_some_iff.mpr ⟨line, whole, rfl⟩⟩
  · intro found inside
    split at found
    · cases found
    rename_i real
    obtain ⟨line, ended, both⟩ := Option.map_eq_some_iff.mp found
    obtain ⟨rfl, rfl⟩ := Prod.mk.inj both
    have before := restOfLineBlank_lt ended
    have blanks : ((near ++ far).drop 9).takeWhile isBlank = (near.drop 9).takeWhile isBlank :=
      run_near isBlank (.inr (by omega))
    rw [blanks] at ended before real
    have token : ((near ++ far).drop (9 + ((near.drop 9).takeWhile isBlank).length)).takeWhile
        (fun c => !isWhitespace c) = (near.drop (9 + ((near.drop 9).takeWhile
          isBlank).length)).takeWhile fun c => !isWhitespace c := run_near _ (.inr (by omega))
    rw [token] at ended real
    rw [if_neg real, blanks, token]
    exact Option.map_eq_some_iff.mpr
      ⟨line, (restOfLineBlank_local _ near far line held).2 ended inside, rfl⟩

theorem dollarTag_local : Local List.length dollarTag := by
  intro near far tag held
  have long : 160 < near.length := held
  have front : ∀ k, k ≤ near.length → (near ++ far).take k = near.take k :=
    fun k inside => List.take_append_of_le_length inside
  have next : ∀ k, k < near.length → ((near ++ far).drop k).head? = (near.drop k).head? := by
    intro k inside
    rw [List.drop_append_of_le_length (by omega)]
    apply List.head?_append_of_ne_nil
    rw [← List.length_pos_iff, List.length_drop]
    omega
  unfold dollarTag
  dsimp only
  constructor
  · intro found
    split at found
    · cases found
    rename_i closes
    rw [not_ne_iff] at closes
    split at found
    · cases found
    rename_i named
    have inside : 1 + ((near.drop 1).takeWhile isWordChar).length < near.length := by
      by_contra short
      rw [List.drop_of_length_le (by omega)] at closes
      cases closes
    have name : ((near ++ far).drop 1).takeWhile isWordChar = (near.drop 1).takeWhile isWordChar :=
      run_near isWordChar (.inl inside)
    have size := congrArg List.length (Option.some.inj found)
    rw [List.length_take] at size
    refine ⟨by omega, ?_⟩
    rw [name, next _ inside, if_neg (not_ne_iff.mpr closes), if_neg named, front _ (by omega)]
    exact found
  · intro found inside
    split at found
    · cases found
    rename_i closes
    rw [not_ne_iff] at closes
    split at found
    · cases found
    rename_i named
    have size := congrArg List.length (Option.some.inj found)
    have ahead : 1 + (((near ++ far).drop 1).takeWhile isWordChar).length <
        (near ++ far).length := by
      by_contra short
      rw [List.drop_of_length_le (by omega)] at closes
      cases closes
    rw [List.length_take, Nat.min_eq_left (by omega)] at size
    have name : ((near ++ far).drop 1).takeWhile isWordChar = (near.drop 1).takeWhile isWordChar :=
      run_near isWordChar (.inr (by omega))
    rw [name] at closes named size found
    rw [next _ (by omega)] at closes
    rw [if_neg (not_ne_iff.mpr closes), if_neg named, ← front _ (by omega)]
    exact found

/-- The directive line and the dollar tag that may open here end within the characters held
back, and so does the tag that may close here. -/
structure Fits (s : SqlSplitter) (buf : Text) : Prop where
  delimiterLine : s.inCode = true → s.lineStart = true → s.dialect = .mysql → s.hasSql = false →
    ∀ span ∈ delimiterSpan buf false, span.1 ≤ HOLD + 1
  batchLine : s.inCode = true → ∀ used ∈ Scan.batchLine s false buf, used ≤ HOLD + 1
  opens : s.inCode = true → s.dialect = .postgres → buf.head? = some '$' →
    ∀ tag ∈ dollarTag buf, tag.length ≤ HOLD + 1
  closes : ∀ tag ∈ s.dollar, tag.length ≤ HOLD + 1
  delimiter : s.delimiter.length ≤ HOLD + 1

instance (s : SqlSplitter) (buf : Text) : Decidable (Fits s buf) :=
  decidable_of_iff
    ((s.inCode = true → s.lineStart = true → s.dialect = .mysql → s.hasSql = false →
        ∀ span ∈ delimiterSpan buf false, span.1 ≤ HOLD + 1) ∧
      (s.inCode = true → ∀ used ∈ Scan.batchLine s false buf, used ≤ HOLD + 1) ∧
      (s.inCode = true → s.dialect = .postgres → buf.head? = some '$' →
        ∀ tag ∈ dollarTag buf, tag.length ≤ HOLD + 1) ∧
      (∀ tag ∈ s.dollar, tag.length ≤ HOLD + 1) ∧ s.delimiter.length ≤ HOLD + 1)
    ⟨fun ⟨line, batch, opens, closes, delimiter⟩ => ⟨line, batch, opens, closes, delimiter⟩,
      fun fits => ⟨fits.delimiterLine, fits.batchLine, fits.opens, fits.closes, fits.delimiter⟩⟩

section Near

variable {s : SqlSplitter} {c : Char} {rest far : Text}

variable (far) in
theorem head_near (count : Nat) (near : count < HOLD) (held : HOLD ≤ rest.length) :
    ((rest ++ far).drop count).head? = (rest.drop count).head? := by
  rw [List.drop_append_of_le_length (by omega)]
  apply List.head?_append_of_ne_nil
  rw [← List.length_pos_iff, List.length_drop]
  omega

theorem prefix_near {tag near : Text} (inside : tag.length ≤ near.length) :
    tag.isPrefixOf (near ++ far) = tag.isPrefixOf near := by
  rw [Bool.eq_iff_iff, List.isPrefixOf_iff_prefix, List.isPrefixOf_iff_prefix]
  constructor
  · intro opens
    exact List.prefix_of_prefix_length_le opens (List.prefix_append _ _) inside
  · exact fun opens => opens.trans (List.prefix_append _ _)

/-- A move inside a comment or a quote looks at the next character and the tag only. -/
theorem insideMove_near (held : HOLD ≤ rest.length)
    (closes : ∀ tag ∈ s.dollar, tag.length ≤ HOLD + 1) :
    s.insideMove c (rest ++ far) = s.insideMove c rest ∧
      (s.insideMove c rest).2 ≤ rest.length + 1 := by
  have long : 160 ≤ rest.length := held
  have first := head_near far 0 (by decide) held
  rw [List.drop_zero, List.drop_zero] at first
  have more : rest.isEmpty = false ∧ (rest ++ far).isEmpty = false := by
    cases rest with
    | nil => simp at long
    | cons d rest => exact ⟨rfl, rfl⟩
  cases comment : s.comment with
  | line =>
    simp only [SqlSplitter.insideMove, comment, true_and]
    split <;> omega
  | block =>
    simp only [SqlSplitter.insideMove, comment, first, true_and]
    repeat' split
    all_goals omega
  | none =>
    cases quote : s.quote with
    | some q =>
      simp only [SqlSplitter.insideMove, comment, quote, first, more, true_and]
      repeat' split
      all_goals omega
    | none =>
      cases dollar : s.dollar with
      | none =>
        simp only [SqlSplitter.insideMove, comment, quote, dollar, first, true_and]
        repeat' split
        all_goals omega
      | some tag =>
        have inside : tag.length ≤ (c :: rest).length := by
          have bound : tag.length ≤ 161 := closes tag (Option.mem_def.mpr dollar)
          rw [List.length_cons]
          omega
        have tagged : tag.isPrefixOf (c :: (rest ++ far)) = tag.isPrefixOf (c :: rest) :=
          prefix_near inside
        rw [List.length_cons] at inside
        simp only [SqlSplitter.insideMove, comment, quote, dollar, first, tagged, true_and]
        repeat' split
        all_goals omega

theorem markSql_near (held : HOLD ≤ rest.length) :
    s.markSql (c :: (rest ++ far)) = s.markSql (c :: rest) := by
  have long : 160 ≤ rest.length := held
  have taken : (c :: (rest ++ far)).take 160 = (c :: rest).take 160 := by
    rw [← List.cons_append]
    apply List.take_append_of_le_length
    rw [List.length_cons]
    omega
  unfold SqlSplitter.markSql startsPlsql
  rw [taken]

theorem codeMove_near (held : HOLD ≤ rest.length)
    (opens : s.dialect = .postgres → c = '$' →
      ∀ tag ∈ dollarTag (c :: (rest ++ far)), tag.length ≤ HOLD + 1) :
    s.codeMove false c (rest ++ far) = s.codeMove false c rest ∧
      (s.codeMove false c rest).2 ≤ rest.length + 1 := by
  have long : 160 ≤ rest.length := held
  have first := head_near far 0 (by decide) held
  have second := head_near far 1 (by decide) held
  have third := head_near far 2 (by decide) held
  rw [List.drop_zero, List.drop_zero] at first
  have tagged : c = '$' ∧ s.dialect = .postgres ∧ (!isWordChar s.prev) = true →
      dollarTag (c :: (rest ++ far)) = dollarTag (c :: rest) := by
    rintro ⟨dollar, postgres, -⟩
    have longer : HOLD < (c :: rest).length := Nat.lt_succ_of_le held
    refine (dollarTag_local.same longer fun tag found => ?_).symm
    exact Nat.le_trans (opens postgres dollar tag (Option.mem_def.mpr found)) longer
  have same : (if c = '$' ∧ s.dialect = .postgres ∧ (!isWordChar s.prev) = true then
      dollarTag (c :: (rest ++ far)) else none) =
      if c = '$' ∧ s.dialect = .postgres ∧ (!isWordChar s.prev) = true then
        dollarTag (c :: rest) else none := by
    split
    · exact tagged ‹_›
    · rfl
  unfold SqlSplitter.codeMove
  dsimp only
  rw [first, second, third, markSql_near held, same]
  refine ⟨rfl, ?_⟩
  repeat' split
  any_goals omega
  rename_i tag found
  split at found
  · exact (dollarTag_length _ _ found).2.2
  · cases found

theorem delimiterLine_near (held : HOLD ≤ rest.length) (fits : Fits s (c :: (rest ++ far)))
    (code : s.inCode = true) :
    Scan.delimiterLine s false (c :: (rest ++ far)) = Scan.delimiterLine s false (c :: rest) := by
  unfold Scan.delimiterLine
  split
  · rename_i starts
    rw [Bool.and_eq_true, Bool.and_eq_true, beq_iff_eq, Bool.not_eq_true'] at starts
    have longer : HOLD < (c :: rest).length := Nat.lt_succ_of_le held
    apply parseDelimiter_congr
    refine (delimiterSpan_local.same longer fun span found => ?_).symm
    exact Nat.le_trans (fits.delimiterLine code starts.1.1 starts.1.2 starts.2 span found) longer
  · rfl

theorem batchLine_near (held : HOLD ≤ rest.length) (fits : Fits s (c :: (rest ++ far)))
    (code : s.inCode = true) :
    Scan.batchLine s false (c :: (rest ++ far)) = Scan.batchLine s false (c :: rest) ∧
      ∀ used, Scan.batchLine s false (c :: rest) = some used → used ≤ rest.length + 1 := by
  have longer : HOLD < (c :: rest).length := Nat.lt_succ_of_le held
  have bound := fits.batchLine code
  unfold Scan.batchLine at bound ⊢
  split
  · rename_i starts
    rw [if_pos starts] at bound
    refine ⟨(parseGo_local.same longer fun used found => ?_).symm, fun used found => ?_⟩
    · exact Nat.le_trans (bound used found) longer
    · exact ((parseGo_local (c :: rest) far used longer).1 found).1
  rename_i other
  rw [if_neg other] at bound
  split
  · rename_i starts
    rw [if_pos starts] at bound
    refine ⟨(parseSlash_local.same longer fun used found => ?_).symm, fun used found => ?_⟩
    · exact Nat.le_trans (bound used found) longer
    · exact ((parseSlash_local (c :: rest) far used longer).1 found).1
  · exact ⟨rfl, nofun⟩

/-- What a turn takes in code is the same on the longer buffer. -/
theorem opening_near (held : HOLD ≤ rest.length) (fits : Fits s (c :: (rest ++ far)))
    (code : s.inCode = true) :
    Scan.opening s false (c :: (rest ++ far)) = Scan.opening s false (c :: rest) := by
  have inside : s.delimiter.length ≤ (c :: rest).length :=
    Nat.le_trans fits.delimiter (Nat.succ_le_succ held)
  have delimiter : s.delimiter.isPrefixOf (c :: (rest ++ far)) = s.delimiter.isPrefixOf (c :: rest) :=
    prefix_near inside
  unfold Scan.opening
  rw [delimiterLine_near held fits code, (batchLine_near held fits code).1, delimiter]

section Turns

variable {scan : Scan} {used : Nat}

theorem take_near (inside : used ≤ rest.length + 1) :
    (c :: (rest ++ far)).take used = (c :: rest).take used := by
  rw [← List.cons_append]
  exact List.take_append_of_le_length inside

theorem advance_near {move : SqlSplitter × Nat} (inside : move.2 ≤ rest.length + 1) :
    scan.advance move (c :: (rest ++ far)) = scan.advance move (c :: rest) := by
  rw [Scan.advance, Scan.advance, take_near inside]

theorem cut_near {directive : Bool} (inside : used ≤ rest.length + 1) :
    scan.cut (c :: (rest ++ far)) used directive = scan.cut (c :: rest) used directive := by
  rw [Scan.cut, Scan.cut, take_near inside]

theorem redelimit_near {token : Text} (inside : used ≤ rest.length + 1) :
    scan.redelimit (c :: (rest ++ far)) used token = scan.redelimit (c :: rest) used token := by
  rw [Scan.redelimit, Scan.redelimit, take_near inside]

theorem redelimit_used {buf token : Text} {next : Scan} {taken : Nat}
    (redelimit : scan.redelimit buf used token = .ok (next, taken)) : taken = used := by
  unfold Scan.redelimit at redelimit
  split at redelimit
  · cases redelimit
  · exact (Prod.mk.inj (Except.ok.inj redelimit)).2.symm

end Turns

/-- One turn on a buffer that holds enough is the turn on every longer one. -/
theorem step_near (scan : Scan) (held : HOLD ≤ rest.length)
    (fits : Fits scan.splitter (c :: (rest ++ far))) :
    scan.step false c (rest ++ far) = scan.step false c rest ∧
      ∀ next used, scan.step false c rest = .ok (next, used) → used ≤ rest.length + 1 := by
  have advanced : ∀ move : SqlSplitter × Nat, move.2 ≤ rest.length + 1 → ∀ next used,
      scan.advance move (c :: rest) = (next, used) → used ≤ rest.length + 1 := by
    intro move inside next used same
    have used_eq : move.2 = used := congrArg Prod.snd same
    exact used_eq ▸ inside
  unfold Scan.step
  by_cases code : scan.splitter.inCode = true
  swap
  · rw [if_neg code, if_neg code]
    obtain ⟨same, inside⟩ := insideMove_near (s := scan.splitter) (c := c) held
      fits.closes
    rw [same, advance_near inside]
    exact ⟨rfl, fun next used stepped => advanced _ inside next used (Except.ok.inj stepped)⟩
  rw [if_pos code, if_pos code, opening_near held fits code]
  cases opened : Scan.opening scan.splitter false (c :: rest) with
  | error error => exact ⟨rfl, fun next used stepped => nomatch stepped⟩
  | ok what =>
    have reads := opening_reads opened
    cases what with
    | other =>
      obtain ⟨same, inside⟩ := codeMove_near (s := scan.splitter) (c := c) held
        fun postgres dollar => fits.opens code postgres (congrArg some dollar)
      dsimp only
      rw [same, advance_near inside]
      exact ⟨rfl, fun next used stepped => advanced _ inside next used (Except.ok.inj stepped)⟩
    | delimiter =>
      have inside : scan.splitter.delimiter.length ≤ rest.length + 1 :=
        List.IsPrefix.length_le reads
      dsimp only
      refine ⟨cut_near inside, fun next used stepped => ?_⟩
      obtain ⟨_, _, used_eq, _⟩ := cut_ok scan _ _ false next used stepped
      rw [used_eq]
      exact inside
    | delimiterLine line token =>
      have early : false = true → ([] : Text) = [] := fun _ => rfl
      have inside : line ≤ rest.length + 1 := (parseDelimiter_spec early reads.2.2.2).2.1
      dsimp only
      refine ⟨redelimit_near inside, fun next used stepped => ?_⟩
      rw [redelimit_used stepped]
      exact inside
    | batchLine line =>
      have early : false = true → ([] : Text) = [] := fun _ => rfl
      have inside : line ≤ rest.length + 1 := by
        rcases reads.2 with ⟨-, go⟩ | ⟨-, slash⟩
        · exact (parseGo_spec early go).2.1
        · exact (parseSlash_spec early slash).2.1
      dsimp only
      refine ⟨cut_near inside, fun next used stepped => ?_⟩
      obtain ⟨_, _, used_eq, _⟩ := cut_ok scan _ _ true next used stepped
      rw [used_eq]
      exact inside

end Near

end DbFree.SqlImport
