import DbFree.Destructive
import DbFree.Engine
import DbFree.Value

/- The languages the guard reads (guard/dialect.rs): for each of them where a statement
ends, and the verdict on a statement by that language's own verbs. -/
namespace DbFree.GuardDialect

open Chars Destructive
open Texts hiding lines

inductive Dialect where
  | sql | cypher | redis | mongo | memcached | lines | blocks | console | stream | whole
deriving DecidableEq

def dialectOf (engine : Engine) : Dialect :=
  match engine.family with
  | .postgres | .mysql | .mssql | .oracle | .sqlite | .duckdb | .clickhouse | .cassandra
  | .snowflake | .bigquery | .libsql | .valTown | .cloudflareD1 | .qldb | .surrealdb | .druid
  | .dynamodb => .sql
  | .neo4j => .cypher
  | .redis => .redis
  | .mongodb => .mongo
  | .memcached => .memcached
  | .rocksdb => .lines
  | .couchdb | .firestore | .meilisearch | .typesense | .prometheus => .blocks
  | .elasticsearch => .console
  | .kafka | .rabbitmq | .convex => .stream
  | .hbase | .tigergraph | .influxdb | .qdrant | .milvus | .weaviate | .pinecone | .chroma
  | .arangodb | .orientdb | .spacetimedb | .s3 | .immudb | .objectdb | .sparql | .basex
  | .existdb => .whole

def firstWord (text : Text) : Text := (splitWhitespace text).headD []

-- Splitting: each family's statements as ranges of characters.

/-- `split_statements` again, each piece placed behind the one before it and a separator. -/
def piecesFrom (length cursor : Nat) : List Text → List (Nat × Nat)
  | [] => []
  | piece :: later =>
    (cursor, min (cursor + piece.length) length) ::
      piecesFrom length (cursor + piece.length + 1) later

/-- No separator follows the line of a shell command, so the pieces behind one are placed
too far; one placed past the end, where the source stops with a panic, is empty here. -/
def sqlRanges (chars : Text) : List (Nat × Nat) :=
  piecesFrom chars.length 0 (splitStatements chars)

def linesFrom (start i : Nat) : Text → List (Nat × Nat)
  | [] => [(start, i)]
  | c :: rest =>
    if c = '\n' then (start, i) :: linesFrom (i + 1) (i + 1) rest else linesFrom start (i + 1) rest

/-- Every line, its line feed excluded. -/
def lines (chars : Text) : List (Nat × Nat) := linesFrom 0 0 chars

def lineText (chars : Text) (range : Nat × Nat) : Text := trim (slice chars range)

def isCommentLine (text : Text) : Bool :=
  startsWith text "#" || (startsWith text "--" && !startsWith text "--cf")

def storageVerbs : List String := ["set", "add", "replace", "append", "prepend", "cas"]

def lineLoop (chars : Text) (storageTakesNext : Bool) : List (Nat × Nat) → List (Nat × Nat)
  | [] => []
  | range :: later =>
    let text := lineText chars range
    if text.isEmpty || isCommentLine text then lineLoop chars storageTakesNext later
    else if storageTakesNext && isIn (toAsciiLowercase (firstWord text)) storageVerbs then
      match later with
      | next :: rest => (range.1, next.2) :: lineLoop chars storageTakesNext rest
      | [] => [range]
    else range :: lineLoop chars storageTakesNext later

def lineRanges (chars : Text) (storageTakesNext : Bool) : List (Nat × Nat) :=
  lineLoop chars storageTakesNext (lines chars)

/-- The block in progress, with one more line. -/
def extend (current : Option (Nat × Nat)) (range : Nat × Nat) : Nat × Nat :=
  match current with
  | some block => (block.1, range.2)
  | none => range

def blockLoop (chars : Text) (current : Option (Nat × Nat)) :
    List (Nat × Nat) → List (Nat × Nat)
  | [] => current.toList
  | range :: later =>
    if (lineText chars range).isEmpty then current.toList ++ blockLoop chars none later
    else blockLoop chars (some (extend current range)) later

def blockRanges (chars : Text) : List (Nat × Nat) := blockLoop chars none (lines chars)

def restVerbs : List String := ["GET", "POST", "PUT", "DELETE", "HEAD", "PATCH"]

def isRestLine (text : Text) : Bool :=
  match splitWhitespace text with
  | verb :: path :: _ =>
    isIn (toAsciiUppercase verb) restVerbs &&
      (startsWith path "/" || startsWith path "_" || path.head?.any isAlphanumeric)
  | _ => false

/-- What `balanced` has seen: how deep in brackets, and whether in a string. -/
structure Nesting where
  depth : Int
  inStr : Bool
  escaped : Bool

def Nesting.step (state : Nesting) (c : Char) : Nesting :=
  if state.inStr then
    if state.escaped then { state with escaped := false }
    else if c = '\\' then { state with escaped := true }
    else if c = '"' then { state with inStr := false }
    else state
  else if c = '"' then { state with inStr := true }
  else if c = '{' ∨ c = '[' then { state with depth := state.depth + 1 }
  else if c = '}' ∨ c = ']' then { state with depth := state.depth - 1 }
  else state

/-- Braces and brackets outside strings all closed. -/
def balanced (text : Text) : Bool :=
  let state := text.foldl Nesting.step ⟨0, false, false⟩
  state.depth ≤ 0 && !state.inStr

/-- A request line starts a statement, and a blank line ends one whose body is complete. -/
def consoleLoop (chars : Text) (current : Option (Nat × Nat)) :
    List (Nat × Nat) → List (Nat × Nat)
  | [] => current.toList
  | range :: later =>
    let text := lineText chars range
    if isRestLine text then current.toList ++ consoleLoop chars (some range) later
    else if text.isEmpty then
      match current with
      | some block =>
        if balanced (slice chars block) then block :: consoleLoop chars none later
        else consoleLoop chars current later
      | none => consoleLoop chars none later
    else consoleLoop chars (some (extend current range)) later

def consoleRanges (chars : Text) : List (Nat × Nat) := consoleLoop chars none (lines chars)

/-- The characters of a JSON body behind its opening brace, `depth` braces being open. -/
def bodyLen (depth : Int) (inStr escaped : Bool) : Text → Nat
  | [] => 0
  | c :: rest =>
    if inStr then
      if escaped then bodyLen depth true false rest + 1
      else if c = '\\' then bodyLen depth true true rest + 1
      else if c = '"' then bodyLen depth false false rest + 1
      else bodyLen depth true false rest + 1
    else if c = '"' then bodyLen depth true false rest + 1
    else if c = '{' then bodyLen (depth + 1) false false rest + 1
    else if c = '}' then
      if depth - 1 = 0 then 1 else bodyLen (depth - 1) false false rest + 1
    else bodyLen depth false false rest + 1

/-- A JSON body runs to its matching brace, a shorthand to the end of its line. -/
def chunkLen (c : Char) (rest : Text) : Nat :=
  if c = '{' then bodyLen 1 false false rest else lineLen rest

/-- The loop of `stream_ranges` at position `i`, with `skip` characters left of the
chunk it has just cut. -/
def streamLoop (skip i : Nat) : Text → List (Nat × Nat)
  | [] => []
  | c :: rest =>
    match skip with
    | skip + 1 => streamLoop skip (i + 1) rest
    | 0 =>
      if isWhitespace c then streamLoop 0 (i + 1) rest
      else
        let later := streamLoop (chunkLen c rest) (i + 1) rest
        if isCommentLine (trim (c :: rest.take (chunkLen c rest))) then later
        else (i, i + 1 + chunkLen c rest) :: later

def streamRanges (chars : Text) : List (Nat × Nat) := streamLoop 0 0 chars

def ranges (dialect : Dialect) (chars : Text) : List (Nat × Nat) :=
  match dialect with
  | .sql | .cypher => sqlRanges chars
  | .redis | .lines => lineRanges chars false
  | .memcached => lineRanges chars true
  | .mongo | .blocks => blockRanges chars
  | .console => consoleRanges chars
  | .stream => streamRanges chars
  | .whole => if blank chars then [] else [(0, chars.length)]

-- Classification, one language at a time.

def READ : Verdict := (.read, none)

def WRITE : Verdict := (.write, none)

def destroy (reason : String) : Verdict := (.destructive, some reason)

/-- The entry of a table of reasons. -/
def reasonFor (word : Text) (table : List (String × String)) : Option String :=
  (table.find? fun entry => entry.1.toList == word).map Prod.snd

def isKeywordChar (c : Char) : Bool := isWordChar c || c == '.' || c == '$'

def wordsUpper (text : Text) : List Text :=
  ((text.splitOnP fun c => !isKeywordChar c).filter fun word => !word.isEmpty).map
    toAsciiUppercase

/-- Where `strip_quoted` is in a text. -/
inductive Stripping where
  | code | quoted (quote : Char) | comment

def stripLoop : Stripping → Text → Text
  | _, [] => []
  | .code, c :: rest =>
    if isQuote c then ' ' :: stripLoop (.quoted c) rest
    else if c = '/' ∧ rest.head? = some '/' then '\n' :: stripLoop .comment rest
    else c :: stripLoop .code rest
  | .quoted quote, c :: rest =>
    if c = '\\' then
      match rest with
      | [] => [' ']
      | _ :: later => ' ' :: stripLoop (.quoted quote) later
    else if c = quote then ' ' :: stripLoop .code rest
    else ' ' :: stripLoop (.quoted quote) rest
  | .comment, c :: rest =>
    if c = '\n' then stripLoop .code rest else stripLoop .comment rest

/-- The statement with quoted strings and `//` comments blanked. -/
def stripQuoted (text : Text) : Text := stripLoop .code text

def cypherWrites : List String :=
  ["CREATE", "MERGE", "SET", "REMOVE", "DELETE", "DETACH", "LOAD", "ALTER", "GRANT", "REVOKE",
    "DENY", "FOREACH"]

/-- The verdict of `cypher` on the words of a statement. -/
def cypherVerdict (words : List Text) : Verdict :=
  if words.head? = some "DROP".toList then destroy "DROP removes the object and its data."
  else if has words "DELETE" && !has words "WHERE" && !has words "LIMIT" &&
      !words.any (·.contains '{') then
    destroy "DELETE without a WHERE clause removes every matched node."
  else if words.head?.any fun word => isIn word ["STOP", "TERMINATE"] then WRITE
  else if cypherWrites.any (has words) then WRITE
  else READ

def cypher (statement : Text) : Verdict := cypherVerdict (wordsUpper (stripQuoted statement))

def redisReads : List String :=
  ["GET", "MGET", "GETRANGE", "SUBSTR", "STRLEN", "EXISTS", "TYPE", "TTL", "PTTL", "EXPIRETIME",
    "PEXPIRETIME", "KEYS", "SCAN", "RANDOMKEY", "DBSIZE", "DUMP", "TOUCH", "LCS", "HGET", "HMGET",
    "HGETALL", "HKEYS", "HVALS", "HLEN", "HEXISTS", "HSTRLEN", "HSCAN", "HRANDFIELD", "HTTL",
    "LRANGE", "LLEN", "LINDEX", "LPOS", "SMEMBERS", "SCARD", "SISMEMBER", "SMISMEMBER",
    "SRANDMEMBER", "SSCAN", "SINTER", "SINTERCARD", "SUNION", "SDIFF", "ZRANGE", "ZRANGEBYSCORE",
    "ZRANGEBYLEX", "ZREVRANGE", "ZREVRANGEBYSCORE", "ZREVRANGEBYLEX", "ZCARD", "ZSCORE",
    "ZMSCORE", "ZRANK", "ZREVRANK", "ZCOUNT", "ZLEXCOUNT", "ZSCAN", "ZRANDMEMBER", "ZINTER",
    "ZUNION", "ZDIFF", "ZINTERCARD", "XRANGE", "XREVRANGE", "XLEN", "XREAD", "XINFO", "XPENDING",
    "GETBIT", "BITCOUNT", "BITPOS", "BITFIELD_RO", "PFCOUNT", "GEOPOS", "GEODIST", "GEOHASH",
    "GEORADIUS_RO", "GEORADIUSBYMEMBER_RO", "GEOSEARCH", "INFO", "PING", "ECHO", "TIME",
    "LASTSAVE", "ROLE", "LOLWUT", "COMMAND", "HELLO", "READONLY", "SORT_RO", "EVAL_RO",
    "EVALSHA_RO", "FCALL_RO", "PUBSUB", "WAIT", "JSON.GET", "JSON.MGET", "JSON.TYPE",
    "JSON.STRLEN", "JSON.ARRLEN", "JSON.OBJKEYS", "JSON.OBJLEN", "JSON.RESP", "FT.SEARCH",
    "FT.AGGREGATE", "FT.INFO", "FT._LIST", "FT.EXPLAIN", "FT.PROFILE", "FT.TAGVALS", "TS.GET",
    "TS.MGET", "TS.RANGE", "TS.REVRANGE", "TS.MRANGE", "TS.MREVRANGE", "TS.INFO",
    "TS.QUERYINDEX", "BF.EXISTS", "BF.MEXISTS", "BF.INFO", "CF.EXISTS", "CF.COUNT", "CF.INFO",
    "CMS.QUERY", "CMS.INFO", "TOPK.QUERY", "TOPK.LIST"]

/-- The commands of a container that only read. -/
def redisReadSubcommands : List (String × List String) :=
  [("CONFIG", ["GET"]),
    ("CLIENT", ["LIST", "INFO", "GETNAME", "ID", "TRACKINGINFO", "GETREDIR"]),
    ("SLOWLOG", ["GET", "LEN"]),
    ("CLUSTER", ["INFO", "NODES", "SLOTS", "SHARDS", "MYID", "KEYSLOT", "COUNTKEYSINSLOT",
      "GETKEYSINSLOT", "LINKS", "REPLICAS"]),
    ("MEMORY", ["USAGE", "STATS", "DOCTOR", "MALLOC-STATS"]),
    ("OBJECT", ["ENCODING", "FREQ", "IDLETIME", "REFCOUNT", "HELP"]),
    ("ACL", ["LIST", "USERS", "WHOAMI", "GETUSER", "CAT", "LOG"]),
    ("FUNCTION", ["LIST", "DUMP", "STATS"]),
    ("SCRIPT", ["EXISTS"]),
    ("MODULE", ["LIST"]),
    ("LATENCY", ["LATEST", "HISTORY", "DOCTOR", "GRAPH", "HISTOGRAM"]),
    ("XINFO", ["STREAM", "GROUPS", "CONSUMERS"])]

def redisDestructive : List (String × String) :=
  [("FLUSHALL", "FLUSHALL deletes every key in every database."),
    ("FLUSHDB", "FLUSHDB deletes every key in this database."),
    ("SWAPDB", "SWAPDB exchanges two whole databases."),
    ("SHUTDOWN", "SHUTDOWN stops the server."),
    ("DEBUG", "DEBUG can crash or block the server.")]

/-- The words of a Redis command, their quotes taken off. -/
def redisWords (statement : Text) : List Text :=
  (splitWhitespace statement).map fun word =>
    toAsciiUppercase ((word.dropWhile (· == '"')).rdropWhile (· == '"'))

def redis (statement : Text) : Verdict :=
  match redisWords statement with
  | [] => READ
  | verb :: later =>
    match reasonFor verb redisDestructive with
    | some reason => destroy reason
    | none =>
      let sub := later.headD []
      if isIn verb ["SCRIPT", "FUNCTION"] && sub == "FLUSH".toList then
        destroy "FLUSH removes every loaded script or function."
      else if isIn verb redisReads then READ
      else if redisReadSubcommands.any fun entry =>
          entry.1.toList == verb && isIn sub entry.2 then READ
      else WRITE

def mongoReads : List String :=
  ["find", "count", "distinct", "aggregate", "getMore", "explain", "listCollections",
    "listDatabases", "listIndexes", "collStats", "dbStats", "dataSize", "serverStatus",
    "buildInfo", "hello", "isMaster", "ping", "hostInfo", "connectionStatus", "currentOp",
    "getParameter", "getCmdLineOpts", "top", "replSetGetStatus", "replSetGetConfig", "usersInfo",
    "rolesInfo", "listCommands", "getLog", "connPoolStats", "shardConnPoolStats", "listShards",
    "balancerStatus", "validate", "profile", "getDefaultRWConcern", "lockInfo", "whatsmyuri",
    "features", "$currentOp"]

def mongoDestructive : List (String × String) :=
  [("drop", "drop removes the collection and every document in it."),
    ("dropDatabase", "dropDatabase removes the database and everything in it."),
    ("dropIndexes", "dropIndexes removes indexes from the collection."),
    ("dropUser", "dropUser removes a user."),
    ("dropAllUsersFromDatabase", "dropAllUsersFromDatabase removes every user."),
    ("dropRole", "dropRole removes a role."),
    ("dropAllRolesFromDatabase", "dropAllRolesFromDatabase removes every role."),
    ("shutdown", "shutdown stops the server.")]

/-- The keys `top_level_keys` pushes at nesting `depth`, `reading` being the string it is
in the middle of. -/
def keysLoop (depth : Int) (reading : Option Text) : Text → List Text
  | [] => []
  | c :: rest =>
    match reading with
    | none =>
      if c = '{' ∨ c = '[' then keysLoop (depth + 1) none rest
      else if c = '}' ∨ c = ']' then keysLoop (depth - 1) none rest
      else if c = '"' then keysLoop depth (some []) rest
      else keysLoop depth none rest
    | some read =>
      if c = '\\' then
        match rest with
        | [] => []
        | e :: later => keysLoop depth (some (read ++ [e])) later
      else if c = '"' then
        let isKey := depth = 1 ∧ (trimStart rest).head? = some ':'
        (if isKey then [read] else []) ++ keysLoop depth none rest
      else keysLoop depth (some (read ++ [c])) rest

/-- Keys of the outermost JSON object, in the order they are written. -/
def topLevelKeys (text : Text) : List Text := keysLoop 0 none text

/-- `spec.get(key).and_then(as_object).is_none_or(Map::is_empty)`. -/
def selectsAll (spec : Json) : Bool :=
  match (spec.get "q").bind Json.asObject with
  | some filter => filter.isEmpty
  | none => true

/-- Whether some entry of the array under `key` passes a test. -/
def anyOf (document : Json) (key : String) (test : Json → Bool) : Bool :=
  (((document.get key).bind Json.asArray).getD []).any test

/-- The verdict of `mongo` on a document with this command. -/
def mongoCommand (document : Json) (command : Text) : Verdict :=
  match reasonFor command mongoDestructive with
  | some reason => destroy reason
  | none =>
    if command == "aggregate".toList then
      if anyOf document "pipeline" fun stage =>
          (stage.get "$out").isSome || (stage.get "$merge").isSome then WRITE
      else READ
    else if command == "delete".toList then
      if anyOf document "deletes" selectsAll then
        destroy "delete with an empty filter removes every document."
      else WRITE
    else if command == "update".toList then
      if anyOf document "updates" fun spec =>
          selectsAll spec && (spec.get "multi").bind Json.asBool == some true then
        destroy "update with an empty filter and multi: true rewrites every document."
      else WRITE
    else if isIn command mongoReads then READ
    else WRITE

def mongo (reader : JsonReader) (statement : Text) : Verdict :=
  let text := trim statement
  if !startsWith text "\x7b" then
    let verb := toAsciiLowercase (firstWord text)
    if isIn verb ["find", "count"] then READ else WRITE
  else
    match reader.fromStr text with
    | some (.object fields) =>
      match (topLevelKeys text).find? (· != "$db".toList) with
      | some command => mongoCommand (.object fields) command
      | none => READ
    | _ => WRITE

def memcachedReads : List String :=
  ["get", "gets", "gat", "gats", "stats", "version", "mg", "mn", "me", "lru_crawler"]

def memcached (statement : Text) : Verdict :=
  let verb := toAsciiLowercase (firstWord statement)
  if isIn verb memcachedReads then READ
  else if verb == "flush_all".toList then
    destroy "flush_all invalidates every item in the cache."
  else if verb == "shutdown".toList then destroy "shutdown stops the server."
  else WRITE

/-- A RocksDB command without the column family it addresses. -/
def withoutFamily (text : Text) : Text :=
  if startsWith text "--cf" then
    trimStart (((trimStart (text.drop 4)).dropWhile fun c => !isWhitespace c).drop 1)
  else text

def keyedReads : List String :=
  ["GET", "SCAN", "KEYS", "CF", "CFS", "COLUMNFAMILIES", "HISTORY", "VERIFIED"]

def keyedLines (statement : Text) : Verdict :=
  let verb := toAsciiUppercase (firstWord (withoutFamily (trim statement)))
  if isIn verb keyedReads then READ
  else if verb == "DROP".toList then destroy "DROP removes the column family and its data."
  else WRITE

end DbFree.GuardDialect
