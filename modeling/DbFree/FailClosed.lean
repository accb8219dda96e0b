import DbFree.NativeDialect

/- Outside SQL the guard should read only what it knows. Here are the command words a
dialect dispatches on, the ones its tables list as reading, and the arms that answer
`Read` without having found one. -/
namespace DbFree.GuardDialect

open Destructive
open Texts hiding lines

/-- What a dialect takes for the command of a statement. -/
inductive CommandWord where
  | word (word : Text)
  /-- A Redis container and its command. -/
  | call (container command : Text)
  /-- An HTTP method and its path. -/
  | request (method path : Text)
  /-- The operation a JSON body names. -/
  | operation (name : Text)
  /-- The kind of a Convex call. -/
  | kind (name : Text)
  /-- The first word of a command that the SQL classifier reads. -/
  | leader (word : Text)
deriving DecidableEq

/-- The query a body asks `native` to read instead of itself. -/
def nestedQuery (reader : JsonReader) (engine : Engine) (text : Text) : Option Text :=
  if startsWith text "\x7b" || startsWith text "[" then
    match reader.fromStr text with
    | some (.object fields) =>
      let document := Json.object fields
      if (engine.family = .arangodb ∨ engine.family = .objectdb) ∧
          (document.get "path").bind Json.asStr = none ∧ operation document = none ∧
          writeKeys.any (containsKey document) = false then
        (document.get "query").bind Json.asStr
      else none
    | _ => none
  else none

def innermostWithin (reader : JsonReader) (engine : Engine) : Nat → Text → Text
  | 0, statement => trim statement
  | fuel + 1, statement =>
    match nestedQuery reader engine (trim statement) with
    | some query => innermostWithin reader engine fuel query
    | none => trim statement

/-- The text that decides about a statement: the query in it, if it only wraps one. -/
def innermost (reader : JsonReader) (engine : Engine) (statement : Text) : Text :=
  innermostWithin reader engine (statement.length + 1) statement

/-- The statements of a text in the eyes of the SQL classifier. -/
def sqlCommands (text : Text) : List Text :=
  (splitStatements text).filter fun statement => !blank statement

def leaders (commands : List Text) : List Text :=
  commands.filterMap fun command => (topLevelWords command).head?

def familyCommands (engine : Engine) (text verb : Text) : List CommandWord :=
  match engine.family with
  | .hbase => [.word (toAsciiLowercase (firstWord text))]
  | .orientdb =>
    if startsWith (trimStart text) "g." then [.word verb]
    else (leaders (sqlCommands text)).map .leader
  | .objectdb | .spacetimedb | .immudb =>
    if !isIn verb nativeReads || verb = "SELECT".toList then
      (leaders (sqlCommands text)).map .leader
    else [.word verb]
  | _ => [.word verb]

def verbOf (words : List Text) : Option Text := words.find? fun word => !isIn word prologueWords

def requestPath (verb text : Text) : Option Text :=
  if isIn verb restVerbs then restPath text else none

def wordsCommands (engine : Engine) (text : Text) : List CommandWord :=
  match verbOf (wordsUpper (stripQuoted text)) with
  | none => []
  | some verb =>
    match requestPath verb text with
    | some path => [.request verb (toAsciiLowercase path)]
    | none => familyCommands engine text verb

def objectCommands (engine : Engine) (document : Json) : List CommandWord :=
  if engine.family = .convex then
    ((document.get "kind").bind Json.asStr).toList.map fun kind => .kind (toAsciiLowercase kind)
  else
    match field document "method", (document.get "path").bind Json.asStr with
    | some method, some path => [.request method (toAsciiLowercase path)]
    | none, some _ => []
    | _, none => (operation document).toList.map .operation

def nativeCommands (reader : JsonReader) (engine : Engine) (text : Text) : List CommandWord :=
  if startsWith text "\x7b" || startsWith text "[" then
    match reader.fromStr text with
    | some (.object fields) => objectCommands engine (.object fields)
    | _ => []
  else wordsCommands engine text

/-- The command words of a statement, none where the dialect looks at no word. -/
def commandWords (reader : JsonReader) (engine : Engine) (statement : Text) : List CommandWord :=
  match dialectOf engine with
  | .sql => (leaders (sqlCommands statement)).map .leader
  | .cypher => ((wordsUpper (stripQuoted statement)).take 1).map .word
  | .redis =>
    match redisWords statement with
    | [] => []
    | verb :: later => [.call verb (later.headD [])]
  | .mongo =>
    let text := trim statement
    if !startsWith text "\x7b" then [.word (toAsciiLowercase (firstWord text))]
    else (((topLevelKeys text).find? (· != "$db".toList)).toList).map .word
  | .memcached => [.word (toAsciiLowercase (firstWord statement))]
  | .lines => [.word (toAsciiUppercase (firstWord (withoutFamily (trim statement))))]
  | .blocks | .console | .stream | .whole =>
    nativeCommands reader engine (innermost reader engine statement)

def readingWords (engine : Engine) : List String :=
  match dialectOf engine with
  | .sql | .cypher => []
  | .redis => redisReads
  | .mongo => mongoReads
  | .memcached => memcachedReads
  | .lines => keyedReads
  | .blocks | .console | .stream | .whole =>
    match engine.family with
    | .convex => ["QUERY", "FUNCTIONS", "TABLES"]
    | .hbase => ["get", "scan", "list", "describe", "count", "exists", "status"]
    | .weaviate => ["AGGREGATE", "EXPLORE"] ++ nativeReads
    | _ => nativeReads

/-- The SQL classifier reads these, `WITH` and `PRAGMA` by what stands behind them. -/
def readingLeaders : List String := ["WITH", "PRAGMA"] ++ readLeaders

/-- Whether the dialect's tables list a command word as reading. -/
def isReading (engine : Engine) : CommandWord → Bool
  | .word word => isIn word (readingWords engine)
  | .call container command =>
    isIn container redisReads || redisReadSubcommands.any fun entry =>
      entry.1.toList == container && isIn command entry.2
  | .request method path =>
    isIn method ["GET", "HEAD"] || (method == "POST".toList && containsAny path readPaths)
  | .operation name => operationReads.any (startsWith name)
  | .kind name => name == "query".toList
  | .leader word => isIn word readingLeaders

/-- All command words of a statement are listed as reading, and there is one. -/
def allReading (engine : Engine) (commands : List CommandWord) : Bool :=
  !commands.isEmpty && commands.all (isReading engine)

def Listed (reader : JsonReader) (engine : Engine) (statement : Text) : Prop :=
  allReading engine (commandWords reader engine statement) = true

instance (reader : JsonReader) (engine : Engine) (statement : Text) :
    Decidable (Listed reader engine statement) :=
  inferInstanceAs (Decidable (_ = true))

/-- A statement of the text is labelled `Read` only for a command word listed as reading. -/
def ReadsAreListed (reader : JsonReader) (engine : Engine) (text : Text) : Prop :=
  ∀ statement ∈ classify reader engine text, statement.kind = .read →
    Listed reader engine statement.text

-- The arms that answer `Read` for want of a reason against it.

def requestDefault (method path : Text) : Bool :=
  !isIn method ["GET", "HEAD", "POST", "DELETE"] && containsAny path readPaths

/-- The last command reads, and none has a word or an earlier one is not listed. -/
def leaderDefault (text : Text) : Bool :=
  (lastVerdict text).1 == .read &&
    ((leaders (sqlCommands text)).isEmpty ||
      !(leaders (sqlCommands text).dropLast).all fun word => isIn word readingLeaders)

def familyDefault (engine : Engine) (text verb : Text) (words : List Text) : Bool :=
  match engine.family with
  | .sparql => !sparqlWrites.any (has words) && !isIn verb nativeReads
  | .basex | .existdb =>
    !containsAny (toAsciiLowercase text) xqueryUpdates && !isIn verb nativeReads
  | .arangodb => !aqlWrites.any (has words) && !isIn verb nativeReads
  | .influxdb =>
    fluxMarks text && !(contains text "to(" || contains text "experimental.to") &&
      !isIn verb nativeReads
  | .orientdb =>
    if startsWith (trimStart text) "g." then
      !containsAny (toAsciiLowercase text) gremlinWrites && !isIn verb nativeReads
    else leaderDefault text
  | .objectdb | .spacetimedb | .immudb =>
    (!isIn verb nativeReads || verb = "SELECT".toList) && leaderDefault text
  | _ => false

def wordsDefault (engine : Engine) (text : Text) : Bool :=
  let words := wordsUpper (stripQuoted text)
  match verbOf words with
  | none => true
  | some verb =>
    match requestPath verb text with
    | some path => requestDefault verb (toAsciiLowercase path)
    | none => familyDefault engine text verb words

def objectDefault (engine : Engine) (document : Json) : Bool :=
  if engine.family = .convex then ((document.get "kind").bind Json.asStr).isNone
  else if engine.family = .kafka && containsKey document "delete" then false
  else
    match field document "method", (document.get "path").bind Json.asStr with
    | some method, some path => requestDefault method (toAsciiLowercase path)
    | none, some _ => true
    | _, none => (operation document).isNone && !writeKeys.any (containsKey document)

def nativeDefault (reader : JsonReader) (engine : Engine) (text : Text) : Bool :=
  if startsWith text "\x7b" || startsWith text "[" then
    match reader.fromStr text with
    | none => engine.family = .weaviate && !contains text "mutation"
    | some (.object fields) => objectDefault engine (.object fields)
    | some _ => false
  else wordsDefault engine text

/-- No word of a Cypher statement is one of its write words. -/
def cypherDefault (words : List Text) : Bool :=
  !(words.head?.any fun word => isIn word ["DROP", "STOP", "TERMINATE"]) &&
    !cypherWrites.any (has words)

/-- A command document that has no key but `$db`. -/
def mongoDefault (reader : JsonReader) (text : Text) : Bool :=
  startsWith text "\x7b" &&
    (match reader.fromStr text with
    | some (.object _) => ((topLevelKeys text).find? (· != "$db".toList)).isNone
    | _ => false)

def readByDefault (reader : JsonReader) (engine : Engine) (statement : Text) : Bool :=
  match dialectOf engine with
  | .sql | .redis | .memcached | .lines => false
  | .cypher => cypherDefault (wordsUpper (stripQuoted statement))
  | .mongo => mongoDefault reader (trim statement)
  | .blocks | .console | .stream | .whole =>
    nativeDefault reader engine (innermost reader engine statement)

/-- A read is answered with a listed word, unless the verdict came by default. -/
def Agrees (verdict : Verdict) (listed byDefault : Bool) : Prop :=
  (verdict.1 = .read → listed = true) ↔ byDefault = false

theorem agrees_read (listed byDefault : Bool) (opposite : listed = !byDefault) :
    Agrees READ listed byDefault := by
  subst opposite
  cases byDefault <;> simp [Agrees, READ]

theorem agrees_other (verdict : Verdict) (listed : Bool) (other : verdict.1 ≠ .read) :
    Agrees verdict listed false := by
  simp [Agrees, other]

theorem agrees_listed (verdict : Verdict) : Agrees verdict true false := by
  simp [Agrees]

theorem write_ne_read : WRITE.1 ≠ .read := by decide

theorem destroy_ne_read (reason : String) : (destroy reason).1 ≠ .read := by
  show StatementKind.destructive ≠ .read
  decide

/-- A verdict that falls back on `Read`, on a word of the tables or on none. -/
theorem agrees_fallback (verdict : Verdict) (writes listed : Bool) (other : verdict.1 ≠ .read) :
    Agrees (if writes then verdict else READ) listed (!writes && !listed) := by
  cases writes with
  | true => exact agrees_other verdict listed other
  | false => exact agrees_read _ _ (by simp)

theorem isIn_cons (word : Text) (entry : String) (table : List String) :
    isIn word (entry :: table) = (entry.toList == word || isIn word table) := by
  simp [isIn]

theorem isIn_subset {word : Text} {table larger : List String}
    (subset : ∀ entry ∈ table, entry ∈ larger) (listed : isIn word table = true) :
    isIn word larger = true := by
  obtain ⟨entry, member, same⟩ := List.any_eq_true.mp listed
  exact List.any_eq_true.mpr ⟨entry, subset entry member, same⟩

theorem rest_agrees (engine : Engine) (method path : Text) :
    Agrees (rest method path) (allReading engine [.request method path])
      (requestDefault method path) := by
  have listed : allReading engine [.request method path] =
      (isIn method ["GET", "HEAD"] || (method == "POST".toList && containsAny path readPaths)) := by
    simp [allReading, isReading]
  rw [listed, rest, requestDefault]
  by_cases reads : isIn method ["GET", "HEAD"] = true
  · rw [if_pos reads, reads]
    have known : isIn method ["GET", "HEAD", "POST", "DELETE"] = true :=
      isIn_subset (by decide) reads
    rw [known]
    exact agrees_listed READ
  rw [if_neg reads]
  by_cases delete : method = "DELETE".toList
  · have known : isIn method ["GET", "HEAD", "POST", "DELETE"] = true := by
      rw [delete]
      rfl
    rw [if_pos delete, known]
    dsimp only
    split
    · exact agrees_other _ _ (destroy_ne_read _)
    · exact agrees_other _ _ write_ne_read
  rw [if_neg delete]
  by_cases searches : containsAny path readPaths = true
  · rw [if_pos searches, searches]
    apply agrees_read
    have unread : isIn method ["GET", "HEAD"] = false := by simpa using reads
    simp only [isIn_cons, Bool.or_eq_false_iff] at unread
    have undelete : ("DELETE".toList == method) = false := by
      simpa using fun same => delete same.symm
    simp only [isIn_cons, unread, undelete, Bool.false_or, Bool.or_false, Bool.and_true, Bool.not_not]
    exact BEq.comm
  · have none₀ : containsAny path readPaths = false := by simpa using searches
    simp only [none₀, Bool.and_false, Bool.false_eq_true, if_false]
    exact agrees_other _ _ write_ne_read

theorem shared_agrees (verb : Text) (words : List Text) (listed : Bool)
    (covers : isIn verb nativeReads = true → listed = true) :
    Agrees (sharedVerdict verb words) listed false := by
  unfold sharedVerdict
  split
  · exact agrees_other _ _ (destroy_ne_read _)
  split
  · rename_i reads
    rw [covers reads]
    exact agrees_listed _
  · split <;> exact agrees_other _ _ write_ne_read

theorem classifyWords_read (words : List Text) (reads : (classifyWords words).1 = .read) :
    words = [] ∨ ∃ first, words.head? = some first ∧ isIn first readingLeaders = true := by
  cases words with
  | nil => exact Or.inl rfl
  | cons first later =>
    refine Or.inr ⟨first, rfl, ?_⟩
    by_contra unlisted
    have apart : first ≠ "WITH".toList ∧ first ≠ "PRAGMA".toList ∧ isIn first readLeaders = false := by
      refine ⟨?_, ?_, ?_⟩
      · intro same
        rw [same] at unlisted
        exact unlisted rfl
      · intro same
        rw [same] at unlisted
        exact unlisted rfl
      · by_contra listed
        apply unlisted
        simp only [readingLeaders, List.cons_append, List.nil_append, isIn_cons, Bool.or_eq_true]
        exact Or.inr (Or.inr (by simpa using listed))
    unfold classifyWords at reads
    simp only [apart.1, apart.2.1, apart.2.2, if_false] at reads
    repeat' split at reads
    all_goals first | exact absurd reads (by decide) | contradiction

theorem classify_eq (text : Text) :
    Destructive.classify text = (sqlCommands text).map classifyStatement := rfl

theorem leaders_agree (engine : Engine) (text : Text) :
    Agrees (lastVerdict text) (allReading engine ((leaders (sqlCommands text)).map .leader))
      (leaderDefault text) := by
  have listed : allReading engine ((leaders (sqlCommands text)).map .leader) =
      (!(leaders (sqlCommands text)).isEmpty &&
        (leaders (sqlCommands text)).all fun word => isIn word readingLeaders) := by
    simp only [allReading, List.isEmpty_map, List.all_map]
    rfl
  rw [listed, leaderDefault]
  by_cases reads : (lastVerdict text).1 = .read
  · -- The command that answered is listed, if it has a word at all.
    have last : (leaders (sqlCommands text)).all (fun word => isIn word readingLeaders) =
        (leaders (sqlCommands text).dropLast).all fun word => isIn word readingLeaders := by
      rcases List.eq_nil_or_concat (sqlCommands text) with none₀ | ⟨earlier, command, split⟩
      · rw [none₀]
        rfl
      · rw [List.concat_eq_append] at split
        have verdict : (classifyWords (topLevelWords command)).1 = .read := by
          rw [lastVerdict, classify_eq, split, List.map_append, List.getLast?_append] at reads
          exact reads
        rw [split, List.dropLast_concat, leaders, leaders, List.filterMap_append, List.all_append]
        rcases classifyWords_read _ verdict with empty | ⟨first, head, known⟩
        · simp [empty]
        · simp [head, known]
    rw [last, Agrees, reads]
    generalize (leaders (sqlCommands text)).isEmpty = empty
    generalize (leaders (sqlCommands text).dropLast).all _ = all
    cases empty <;> cases all <;> simp
  · have other : ((lastVerdict text).1 == .read) = false := by simpa using reads
    rw [other, Bool.false_and]
    exact agrees_other _ _ reads

/-- The dialects that `native` reads. -/
def Native (engine : Engine) : Prop :=
  dialectOf engine = .blocks ∨ dialectOf engine = .console ∨ dialectOf engine = .stream ∨
    dialectOf engine = .whole

theorem allReading_word (engine : Engine) (word : Text) :
    allReading engine [.word word] = isIn word (readingWords engine) := by
  simp [allReading, isReading]

theorem isIn_append (word : Text) (first second : List String) :
    isIn word (first ++ second) = (isIn word first || isIn word second) := by
  simp [isIn]

/-- The verdict where a family has an arm of its own, or leaves it to the shared verbs. -/
def familyOr (engine : Engine) (text verb : Text) (words : List Text) : Verdict :=
  match familyVerdict engine text verb words with
  | some answer => answer
  | none => sharedVerdict verb words

theorem updates_of_removes (text : Text)
    (removes : (contains text "db:drop" || contains text "xmldb:remove") = true) :
    containsAny text xqueryUpdates = true := by
  rw [Bool.or_eq_true] at removes
  rw [containsAny, List.any_eq_true]
  rcases removes with drop | remove
  · exact ⟨"db:drop", by decide, drop⟩
  · exact ⟨"xmldb:remove", by decide, remove⟩

theorem xquery_agrees (lower : Text) (listed : Bool) :
    Agrees (if contains lower "db:drop" || contains lower "xmldb:remove" then
        destroy "This removes a whole database or collection."
      else if containsAny lower xqueryUpdates then WRITE
      else READ) listed (!containsAny lower xqueryUpdates && !listed) := by
  by_cases removes : (contains lower "db:drop" || contains lower "xmldb:remove") = true
  · rw [if_pos removes, updates_of_removes lower removes]
    exact agrees_other _ _ (destroy_ne_read _)
  · rw [if_neg removes]
    exact agrees_fallback WRITE _ _ write_ne_read

theorem family_agrees (engine : Engine) (text verb : Text) (words : List Text)
    (native : Native engine) (queries : engine.family ≠ .prometheus)
    (plain : startsWith text "\x7b" = false) :
    Agrees (familyOr engine text verb words)
      (allReading engine (familyCommands engine text verb))
      (familyDefault engine text verb words) := by
  have shared := shared_agrees verb words
  unfold familyOr familyVerdict familyCommands familyDefault
  cases family : engine.family
  case prometheus => exact absurd family queries
  case orientdb =>
    dsimp only
    cases startsWith (trimStart text) "g." with
    | true =>
      show Agrees (if containsAny (toAsciiLowercase text) gremlinWrites then WRITE else READ)
        (allReading engine [.word verb])
        (!containsAny (toAsciiLowercase text) gremlinWrites && !isIn verb nativeReads)
      rw [allReading_word, readingWords]
      simp only [dialectOf, family]
      exact agrees_fallback WRITE _ _ write_ne_read
    | false => exact leaders_agree engine text
  case objectdb | spacetimedb | immudb =>
    dsimp only
    cases (!isIn verb nativeReads || decide (verb = "SELECT".toList)) with
    | true => exact leaders_agree engine text
    | false =>
      show Agrees (sharedVerdict verb words) (allReading engine [.word verb]) false
      rw [allReading_word, readingWords]
      simp only [dialectOf, family]
      exact shared _ id
  all_goals
    dsimp only
    rw [allReading_word, readingWords]
    simp only [dialectOf, family]
  case convex | hbase =>
    split
    · rename_i reads
      rw [reads]
      exact agrees_listed _
    · first
      | exact agrees_other _ _ write_ne_read
      | split
        · exact agrees_other _ _ (destroy_ne_read _)
        · exact agrees_other _ _ write_ne_read
  case sparql =>
    apply agrees_fallback
    split
    · exact destroy_ne_read _
    · exact write_ne_read
  case basex | existdb => exact xquery_agrees _ _
  case arangodb => exact agrees_fallback WRITE _ _ write_ne_read
  case influxdb =>
    cases fluxMarks text with
    | true => exact agrees_fallback WRITE _ _ write_ne_read
    | false => exact shared _ id
  case weaviate =>
    rw [plain, Bool.false_or, isIn_append]
    by_cases reads : isIn verb ["GET", "AGGREGATE", "EXPLORE", "QUERY"] = true
    · have listed : (isIn verb ["AGGREGATE", "EXPLORE"] || isIn verb nativeReads) = true := by
        rw [← isIn_append]
        exact isIn_subset (by decide) reads
      rw [if_pos reads, listed]
      exact agrees_listed _
    rw [if_neg reads]
    by_cases mutates : verb = "MUTATION".toList
    · rw [if_pos mutates]
      exact agrees_other _ _ write_ne_read
    · rw [if_neg mutates]
      exact shared _ (fun reads => by rw [reads, Bool.or_true])
  case tigergraph =>
    by_cases interprets : verb = "INTERPRET".toList
    · have listed : isIn verb nativeReads = true := by
        rw [interprets]
        exact List.any_eq_true.mpr ⟨"INTERPRET", by decide, beq_self_eq_true _⟩
      rw [if_pos interprets, listed]
      exact agrees_listed _
    rw [if_neg interprets]
    by_cases runs : verb = "RUN".toList
    · rw [if_pos runs]
      exact agrees_other _ _ write_ne_read
    · rw [if_neg runs]
      exact shared _ id
  -- a family of another dialect is excluded before its table is compared with the shared one
  all_goals first
    | refine absurd native ?_
      simp [Native, dialectOf, family]
      done
    | exact shared _ id

theorem words_agree (engine : Engine) (text : Text) (native : Native engine)
    (queries : engine.family ≠ .prometheus) (plain : startsWith text "\x7b" = false) :
    Agrees (wordsVerdict engine text) (allReading engine (wordsCommands engine text))
      (wordsDefault engine text) := by
  unfold wordsVerdict wordsCommands wordsDefault verbOf requestPath
  dsimp only
  cases (wordsUpper (stripQuoted text)).find? fun word => !isIn word prologueWords with
  | none => exact agrees_read _ _ rfl
  | some verb =>
    dsimp only
    cases if isIn verb restVerbs = true then restPath text else none with
    | some path => exact rest_agrees engine verb (toAsciiLowercase path)
    | none =>
      exact family_agrees engine text verb _ native queries plain

theorem operation_agrees (engine : Engine) (op : Text) :
    Agrees (if removesWhole op then destroy "This removes a whole table, collection or index."
      else if operationReads.any (startsWith op) then READ else WRITE)
      (allReading engine [.operation op]) false := by
  have listed : allReading engine [.operation op] = operationReads.any (startsWith op) := by
    simp [allReading, isReading]
  rw [listed]
  split
  · exact agrees_other _ _ (destroy_ne_read _)
  split
  · rename_i reads
    rw [reads]
    exact agrees_listed _
  · exact agrees_other _ _ write_ne_read

theorem unrequested_agrees (engine : Engine) (nested : Text → Verdict) (document : Json)
    (own : (engine.family = .arangodb ∨ engine.family = .objectdb) → operation document = none →
      writeKeys.any (containsKey document) = false →
      (document.get "query").bind Json.asStr = none) :
    Agrees (operationVerdict engine nested document)
      (allReading engine ((operation document).toList.map .operation))
      ((operation document).isNone && !writeKeys.any (containsKey document)) := by
  unfold operationVerdict
  cases named : operation document with
  | some op => exact operation_agrees engine op
  | none =>
    dsimp only
    by_cases writes : writeKeys.any (containsKey document) = true
    · rw [if_pos writes, writes]
      exact agrees_other _ _ write_ne_read
    · have inert : writeKeys.any (containsKey document) = false := by simpa using writes
      rw [if_neg writes, inert]
      split
      · rename_i wraps
        rw [own wraps named inert]
        exact agrees_read _ _ rfl
      · exact agrees_read _ _ rfl

/-- A body that does not pass the question on to a query in it. -/
theorem object_agrees (engine : Engine) (nested : Text → Verdict) (document : Json)
    (own : (engine.family = .arangodb ∨ engine.family = .objectdb) →
      (document.get "path").bind Json.asStr = none → operation document = none →
      writeKeys.any (containsKey document) = false →
      (document.get "query").bind Json.asStr = none) :
    Agrees (objectVerdict engine nested document)
      (allReading engine (objectCommands engine document)) (objectDefault engine document) := by
  unfold objectVerdict objectCommands objectDefault
  by_cases convex : engine.family = .convex
  · simp only [if_pos convex]
    cases (document.get "kind").bind Json.asStr with
    | none => exact agrees_read _ _ rfl
    | some kind =>
      have listed : allReading engine [.kind (toAsciiLowercase kind)] =
          (toAsciiLowercase kind == "query".toList) := by
        simp [allReading, isReading]
      simp only [Option.toList_some, List.map_cons, List.map_nil, listed, Option.getD_some]
      split
      · rename_i reads
        rw [reads]
        exact agrees_listed _
      · exact agrees_other _ _ write_ne_read
  simp only [if_neg convex]
  split
  · exact agrees_other _ _ (destroy_ne_read _)
  have unrequested := unrequested_agrees engine nested document
  cases path : (document.get "path").bind Json.asStr with
  | some target =>
    cases field document "method" with
    | some method => exact rest_agrees engine method (toAsciiLowercase target)
    | none => exact agrees_read _ _ rfl
  | none =>
    cases field document "method" with
    | some method => exact unrequested fun wraps => own wraps path
    | none => exact unrequested fun wraps => own wraps path

theorem nestedQuery_eq_none (reader : JsonReader) (engine : Engine) (text : Text)
    (fields : List (Text × Json)) (body : (startsWith text "\x7b" || startsWith text "[") = true)
    (read : reader.fromStr text = some (.object fields))
    (own : nestedQuery reader engine text = none)
    (wraps : engine.family = .arangodb ∨ engine.family = .objectdb)
    (path : ((Json.object fields).get "path").bind Json.asStr = none)
    (named : operation (.object fields) = none)
    (inert : writeKeys.any (containsKey (.object fields)) = false) :
    ((Json.object fields).get "query").bind Json.asStr = none := by
  rw [nestedQuery, if_pos body, read] at own
  dsimp only at own
  rwa [if_pos ⟨wraps, path, named, inert⟩] at own

/-- A text that decides about itself. -/
theorem native_agrees (reader : JsonReader) (engine : Engine) (nested : Text → Verdict)
    (text : Text) (native : Native engine) (queries : engine.family ≠ .prometheus)
    (own : nestedQuery reader engine text = none) :
    Agrees (if startsWith text "\x7b" || startsWith text "[" then jsonCommand reader engine nested text
      else wordsVerdict engine text)
      (allReading engine (nativeCommands reader engine text))
      (nativeDefault reader engine text) := by
  unfold nativeCommands nativeDefault
  by_cases body : (startsWith text "\x7b" || startsWith text "[") = true
  · simp only [if_pos body]
    unfold jsonCommand
    cases read : reader.fromStr text with
    | none =>
      dsimp only
      by_cases mutates : contains text "mutation" = true
      · rw [if_pos mutates, mutates, Bool.not_true, Bool.and_false]
        exact agrees_other _ _ write_ne_read
      · have reads : contains text "mutation" = false := by simpa using mutates
        rw [if_neg mutates, reads, Bool.not_false, Bool.and_true]
        by_cases graphql : engine.family = .weaviate
        · rw [if_pos graphql, decide_eq_true graphql]
          exact agrees_read _ _ rfl
        · rw [if_neg graphql, decide_eq_false graphql]
          exact agrees_other _ _ write_ne_read
    | some document =>
      cases document with
      | object fields =>
        exact object_agrees engine nested _ (nestedQuery_eq_none reader engine text fields body read own)
      | null | bool _ | number _ | string _ | array _ => exact agrees_other _ _ write_ne_read
  · simp only [if_neg body]
    have plain : startsWith text "\x7b" = false := by
      rw [Bool.or_eq_true, not_or] at body
      simpa using body.1
    exact words_agree engine text native queries plain

/-- A body that wraps a query has the verdict of the query. -/
theorem nativeStep_nested (reader : JsonReader) (engine : Engine) (nested : Text → Verdict)
    (statement query : Text) (wrapped : nestedQuery reader engine (trim statement) = some query) :
    nativeStep reader engine nested statement = nested query := by
  unfold nestedQuery at wrapped
  unfold nativeStep
  dsimp only
  split at wrapped
  · rename_i body
    rw [if_pos body, jsonCommand]
    cases read : reader.fromStr (trim statement) with
    | none =>
      rw [read] at wrapped
      cases wrapped
    | some document =>
      rw [read] at wrapped
      cases document with
      | object fields =>
        dsimp only at wrapped ⊢
        split at wrapped
        · rename_i shape
          obtain ⟨wraps, path, named, inert⟩ := shape
          have convex : ¬engine.family = .convex := by
            rcases wraps with arango | object <;> simp [*]
          have kafka : ¬(decide (engine.family = .kafka) &&
              containsKey (.object fields) "delete") = true := by
            rcases wraps with arango | object <;> simp [*]
          have answer : operationVerdict engine nested (.object fields) = nested query := by
            unfold operationVerdict
            rw [named]
            dsimp only
            rw [if_neg (by simp [inert]), if_pos wraps, wrapped]
          unfold objectVerdict
          rw [if_neg convex, if_neg kafka, path]
          cases field (.object fields) "method" with
          | some method => exact answer
          | none => exact answer
        · cases wrapped
      | null | bool _ | number _ | string _ | array _ => cases wrapped
  · cases wrapped

theorem nestedQuery_shorter (reader : JsonReader) (engine : Engine) (text query : Text)
    (wrapped : nestedQuery reader engine text = some query) : query.length < text.length := by
  unfold nestedQuery at wrapped
  split at wrapped
  · split at wrapped
    · rename_i fields read
      dsimp only at wrapped
      split at wrapped
      · exact reader.shorter text _ "query" query read wrapped
      · cases wrapped
    · cases wrapped
  · cases wrapped

/-- The innermost text is trimmed, wraps no query and has the verdict of the statement. -/
theorem innermostWithin_spec (reader : JsonReader) (engine : Engine) (fuel : Nat)
    (statement : Text) (enough : statement.length < fuel) :
    nestedQuery reader engine (innermostWithin reader engine fuel statement) = none ∧
      ∃ nested, native reader engine statement =
        (if startsWith (innermostWithin reader engine fuel statement) "\x7b" ||
            startsWith (innermostWithin reader engine fuel statement) "[" then
          jsonCommand reader engine nested (innermostWithin reader engine fuel statement)
        else wordsVerdict engine (innermostWithin reader engine fuel statement)) := by
  induction fuel generalizing statement with
  | zero => omega
  | succ fuel ih =>
    rw [innermostWithin]
    cases wrapped : nestedQuery reader engine (trim statement) with
    | none => exact ⟨wrapped, native reader engine, native_eq reader engine statement⟩
    | some query =>
      have shorter := nestedQuery_shorter reader engine _ query wrapped
      have bound := trim_length statement
      rw [native_eq, nativeStep_nested reader engine _ statement query wrapped]
      exact ih query (by omega)

theorem redis_agrees (engine : Engine) (statement : Text)
    (visible : splitWhitespace statement ≠ []) :
    Agrees (redis statement)
      (allReading engine (match redisWords statement with
        | [] => []
        | verb :: later => [.call verb (later.headD [])])) false := by
  unfold redis
  cases words : redisWords statement with
  | nil =>
    rw [redisWords, List.map_eq_nil_iff] at words
    exact absurd words visible
  | cons verb later =>
    have listed : allReading engine [.call verb (later.headD [])] =
        (isIn verb redisReads || redisReadSubcommands.any fun entry =>
          entry.1.toList == verb && isIn (later.headD []) entry.2) := by
      simp [allReading, isReading]
    dsimp only
    rw [listed]
    split
    · exact agrees_other _ _ (destroy_ne_read _)
    split
    · exact agrees_other _ _ (destroy_ne_read _)
    split
    · rename_i reads
      rw [reads, Bool.true_or]
      exact agrees_listed _
    split
    · rename_i reads
      rw [reads, Bool.or_true]
      exact agrees_listed _
    · exact agrees_other _ _ write_ne_read

theorem cypher_agrees (engine : Engine) (words : List Text)
    (cypherEngine : dialectOf engine = .cypher) :
    Agrees (cypherVerdict words) (allReading engine ((words.take 1).map .word))
      (cypherDefault words) := by
  have unlisted : allReading engine ((words.take 1).map .word) = false := by
    cases words with
    | nil => rfl
    | cons first later => simp [allReading, isReading, readingWords, cypherEngine, isIn]
  have leads : ∀ (first : Text) (table : List String), words.head? = some first →
      isIn first table = true → (words.head?.any fun word => isIn word table) = true := by
    intro first table head member
    rw [head]
    exact member
  rw [unlisted, cypherVerdict, cypherDefault]
  by_cases drops : words.head? = some "DROP".toList
  · have counts := leads _ ["DROP", "STOP", "TERMINATE"] drops rfl
    rw [if_pos drops, counts]
    exact agrees_other _ _ (destroy_ne_read _)
  rw [if_neg drops]
  by_cases wipes : (has words "DELETE" && !has words "WHERE" && !has words "LIMIT" &&
      !words.any (·.contains '{')) = true
  · have counts : cypherWrites.any (has words) = true := by
      simp only [Bool.and_eq_true] at wipes
      exact List.any_eq_true.mpr ⟨"DELETE", by decide, wipes.1.1.1⟩
    rw [if_pos wipes, counts, Bool.not_true, Bool.and_false]
    exact agrees_other _ _ (destroy_ne_read _)
  rw [if_neg wipes]
  have same : (words.head?.any fun word => isIn word ["DROP", "STOP", "TERMINATE"]) =
      (words.head?.any fun word => isIn word ["STOP", "TERMINATE"]) := by
    cases head : words.head? with
    | none => rfl
    | some first =>
      have apart : ("DROP".toList == first) = false := by
        rw [beq_eq_false_iff_ne]
        intro same
        exact drops (by rw [head, same])
      simp only [Option.any_some]
      rw [isIn_cons, apart, Bool.false_or]
  rw [same]
  cases words.head?.any fun word => isIn word ["STOP", "TERMINATE"] with
  | true => exact agrees_other _ _ write_ne_read
  | false =>
    cases cypherWrites.any (has words) with
    | true => exact agrees_other _ _ write_ne_read
    | false => exact agrees_read _ _ rfl

theorem mongoCommand_agrees (document : Json) (command : Text) :
    Agrees (mongoCommand document command) (isIn command mongoReads) false := by
  unfold mongoCommand
  split
  · exact agrees_other _ _ (destroy_ne_read _)
  split
  · rename_i aggregates
    rw [beq_iff_eq] at aggregates
    rw [aggregates]
    exact agrees_listed _
  split
  · split
    · exact agrees_other _ _ (destroy_ne_read _)
    · exact agrees_other _ _ write_ne_read
  split
  · split
    · exact agrees_other _ _ (destroy_ne_read _)
    · exact agrees_other _ _ write_ne_read
  split
  · rename_i reads
    rw [reads]
    exact agrees_listed _
  · exact agrees_other _ _ write_ne_read

theorem mongo_agrees (reader : JsonReader) (engine : Engine) (statement : Text)
    (mongoEngine : dialectOf engine = .mongo) :
    Agrees (mongo reader statement)
      (allReading engine
        (if !startsWith (trim statement) "\x7b" then
          [.word (toAsciiLowercase (firstWord (trim statement)))]
        else
          (((topLevelKeys (trim statement)).find? (· != "$db".toList)).toList).map .word))
      (mongoDefault reader (trim statement)) := by
  have listed : ∀ word : Text, allReading engine [.word word] = isIn word mongoReads := by
    intro word
    rw [allReading_word, readingWords, mongoEngine]
  unfold mongo mongoDefault
  dsimp only
  cases startsWith (trim statement) "\x7b" with
  | false =>
    show Agrees (if isIn _ ["find", "count"] then READ else WRITE) (allReading engine [.word _]) false
    rw [listed]
    split
    · rename_i reads
      have known : isIn (toAsciiLowercase (firstWord (trim statement))) mongoReads = true :=
        isIn_subset (by decide) reads
      rw [known]
      exact agrees_listed _
    · exact agrees_other _ _ write_ne_read
  | true =>
    simp only [Bool.not_true, Bool.false_eq_true, if_false, Bool.true_and]
    cases reader.fromStr (trim statement) with
    | none => exact agrees_other _ _ write_ne_read
    | some document =>
      cases document with
      | object fields =>
        dsimp only
        cases (topLevelKeys (trim statement)).find? (· != "$db".toList) with
        | none => exact agrees_read _ _ rfl
        | some command =>
          show Agrees _ (allReading engine [.word command]) false
          rw [listed]
          exact mongoCommand_agrees (.object fields) command
      | null | bool _ | number _ | string _ | array _ => exact agrees_other _ _ write_ne_read

/-- A dialect that reads the words of one table, and no others. -/
theorem table_agrees (word : Text) (table : List String) (otherwise : Verdict)
    (other : otherwise.1 ≠ .read) :
    Agrees (if isIn word table then READ else otherwise) (isIn word table) false := by
  cases isIn word table with
  | true => exact agrees_listed _
  | false => exact agrees_other _ _ other

theorem classifyOne_agrees (reader : JsonReader) (engine : Engine) (statement : Text)
    (other : dialectOf engine ≠ .sql) (queries : engine.family ≠ .prometheus)
    (visible : splitWhitespace statement ≠ []) :
    Agrees (classifyOne reader engine (dialectOf engine) statement)
      (allReading engine (commandWords reader engine statement))
      (readByDefault reader engine statement) := by
  have whole : Native engine →
      Agrees (native reader engine statement)
        (allReading engine (nativeCommands reader engine (innermost reader engine statement)))
        (nativeDefault reader engine (innermost reader engine statement)) := by
    intro spoken
    obtain ⟨own, nested, same⟩ :=
      innermostWithin_spec reader engine _ statement (Nat.lt_succ_self statement.length)
    rw [same]
    exact native_agrees reader engine nested _ spoken queries own
  unfold commandWords readByDefault classifyOne
  cases dialect : dialectOf engine with
  | sql => exact absurd dialect other
  | cypher => exact cypher_agrees engine _ dialect
  | redis => exact redis_agrees engine statement visible
  | mongo => exact mongo_agrees reader engine statement dialect
  | memcached =>
    dsimp only
    rw [allReading_word, readingWords, dialect, memcached]
    apply table_agrees
    split
    · exact destroy_ne_read _
    split
    · exact destroy_ne_read _
    · exact write_ne_read
  | lines =>
    dsimp only
    rw [allReading_word, readingWords, dialect, keyedLines]
    apply table_agrees
    split
    · exact destroy_ne_read _
    · exact write_ne_read
  | blocks | console | stream | whole => exact whole (by simp [Native, dialect])

theorem statementTexts_visible (engine : Engine) (text : Text) :
    ∀ statement ∈ statementTexts engine text, splitWhitespace statement ≠ [] := by
  intro statement member wordless
  rw [statementTexts, List.mem_filter, List.mem_map] at member
  obtain ⟨⟨range, -, rfl⟩, shown⟩ := member
  have hidden := blank_of_splitWhitespace _ wordless
  rw [lineText, blank_trim, ← trim_eq_nil_iff] at hidden
  rw [lineText, hidden] at shown
  cases shown

/-- Outside SQL a text is read by its listed words alone exactly when no statement of it
reaches an arm that reads by default. -/
theorem reads_are_listed_iff (reader : JsonReader) (engine : Engine) (text : Text)
    (other : dialectOf engine ≠ .sql) (queries : engine.family ≠ .prometheus) :
    ReadsAreListed reader engine text ↔
      ∀ statement ∈ statementTexts engine text, readByDefault reader engine statement = false := by
  have agree : ∀ statement ∈ statementTexts engine text, _ := fun statement member =>
    classifyOne_agrees reader engine statement other queries
      (statementTexts_visible engine text statement member)
  rw [ReadsAreListed, classify, if_neg other, List.forall_mem_map]
  exact forall₂_congr fun statement member => agree statement member

/-- A reader of JSON that reads no text, enough where no statement is a body. -/
def noJson : JsonReader := ⟨fun _ => none, fun _ _ _ _ read => nomatch read⟩

theorem reads_are_listed_redis :
    ReadsAreListed noJson .redis "GET user:1\nSET user:1 x\nCONFIG GET maxmemory".toList :=
  (reads_are_listed_iff noJson .redis _ (by decide) (by decide)).mpr (by decide +kernel)

/-- `CALL` is in no table of the Cypher dialect, and the procedure writes. -/
theorem unlisted_call_reads : ¬∀ (reader : JsonReader) (engine : Engine) (text : Text),
    dialectOf engine ≠ .sql → engine.family ≠ .prometheus → ReadsAreListed reader engine text := by
  intro closed
  have listed := closed noJson .neo4j "CALL db.createLabel('A')".toList (by decide) (by decide)
  revert listed
  unfold ReadsAreListed
  decide +kernel

end DbFree.GuardDialect
