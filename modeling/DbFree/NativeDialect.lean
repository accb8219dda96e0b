import DbFree.Dialect
import DbFree.Trimming

/- The verdicts on everything that speaks its own command, REST or query language
(`native` of guard/dialect.rs), and the statements of a text with their verdicts. -/
namespace DbFree.GuardDialect

open Destructive
open Texts hiding lines

def nativeReads : List String :=
  ["GET", "HEAD", "SCAN", "KEYS", "LIST", "LS", "SEARCH", "QUERY", "FIND", "COUNT", "DESCRIBE",
    "DESC", "INFO", "STATS", "STATUS", "SHOW", "SELECT", "MATCH", "CONSUME", "PEEK", "TOPICS",
    "QUEUES", "EXCHANGES", "BUCKETS", "INDEXES", "INDICES", "COLLECTIONS", "CLASSES", "SCHEMA",
    "OBJECTS", "TABLES", "ALL", "HISTORY", "VERIFIED", "SCROLL", "FETCH", "EXPLAIN", "PING",
    "VERSION", "HEALTH", "ASK", "CONSTRUCT", "FROM", "RANGE", "INSTANT", "SERIES", "LABELS",
    "TARGETS", "METRICS", "VALUES", "GROUPS", "DATABASES", "MEASUREMENTS", "FUNCTIONS",
    "VERTICES", "EDGES", "INTERPRET", "SIMILAR", "NEAR", "TRAVERSE", "PROFILE"]

def nativeWrites : List String :=
  ["INSERT", "UPDATE", "UPSERT", "REPLACE", "REMOVE", "DELETE", "PUT", "POST", "PATCH", "SET",
    "CREATE", "ALTER", "RENAME", "PUBLISH", "PRODUCE", "SEND", "MUTATION", "LOAD", "CLEAR", "ADD",
    "DEFINE", "RELATE", "INSTALL", "GRANT", "REVOKE", "MOVE", "COPY", "MERGE", "TRUNCATE",
    "DROP", "PURGE", "WITH", "IMPORT"]

/-- HTTP paths a POST still only reads through. -/
def readPaths : List String :=
  ["_search", "_msearch", "_count", "_mget", "_explain", "_validate", "_field_caps", "_sql",
    "_eql", "_esql", "_rank_eval", "_terms_enum", "_analyze", "_find", "_all_docs", "_explain",
    "/search", "multi_search", "/query", "/scroll", "/count", "/recommend", "/discover",
    "/similar", "/facet-search", "/graphql"]

/-- Whether a text contains one of these. -/
def containsAny (text : Text) (parts : List String) : Bool := parts.any (contains text)

def pathSegments (path : Text) : List Text :=
  (path.splitOn '/').filter fun segment => !segment.isEmpty

/-- The verdict on a request, the path in lower case. -/
def rest (method path : Text) : Verdict :=
  if isIn method ["GET", "HEAD"] then READ
  else if method = "DELETE".toList then
    let segments := pathSegments path
    if contains path "_delete_by_query" || segments.length ≤ 1 ||
        segments.all fun segment => startsWith segment "_" || segments.length == 1 then
      destroy "This DELETE removes a whole index, database or every matching document."
    else WRITE
  else if containsAny path readPaths then READ
  else WRITE

/-- A text field of a JSON command, in upper case. -/
def field (document : Json) (key : String) : Option Text :=
  ((document.get key).bind Json.asStr).map toAsciiUppercase

/-- The operation a JSON command names under one of four keys. -/
def operation (document : Json) : Option Text :=
  field document "operation" <|> field document "op" <|> field document "action" <|>
    field document "command"

def removesWhole (op : Text) : Bool :=
  startsWith op "DELETETABLE" || startsWith op "DROP" ||
    isIn op ["PURGE", "DELETE_COLLECTION", "DELETEINDEX"]

def operationReads : List String :=
  ["GET", "SCAN", "QUERY", "LIST", "DESCRIBE", "SEARCH", "COUNT", "CONSUME", "FETCH", "BATCHGET",
    "INFO", "STATS", "PEEK"]

def writeKeys : List String :=
  ["documents", "delete", "deletes", "import", "upsert", "insert", "update", "updates", "vectors",
    "points", "publish", "produce", "messages", "records", "mutation", "args", "set", "put",
    "embeddings", "objects"]

/-- `Map::contains_key`. -/
def containsKey (document : Json) (key : String) : Bool := (document.get key).isSome

/-- The verdict on an object that is no request; `nested` is `native` on a query it holds. -/
def operationVerdict (engine : Engine) (nested : Text → Verdict) (document : Json) : Verdict :=
  match operation document with
  | some op =>
    if removesWhole op then destroy "This removes a whole table, collection or index."
    else if operationReads.any (startsWith op) then READ
    else WRITE
  | none =>
    if writeKeys.any (containsKey document) then WRITE
    else if engine.family = .arangodb ∨ engine.family = .objectdb then
      match (document.get "query").bind Json.asStr with
      | some query => nested query
      | none => READ
    else READ

/-- The verdict on a JSON object. -/
def objectVerdict (engine : Engine) (nested : Text → Verdict) (document : Json) : Verdict :=
  if engine.family = .convex then
    let kind := toAsciiLowercase (((document.get "kind").bind Json.asStr).getD "query".toList)
    if kind == "query".toList then READ else WRITE
  else if engine.family = .kafka && containsKey document "delete" then
    destroy "This deletes a topic and every message in it."
  else
    match field document "method", (document.get "path").bind Json.asStr with
    | some method, some path => rest method (toAsciiLowercase path)
    | none, some _ => READ
    | _, none => operationVerdict engine nested document

def jsonCommand (reader : JsonReader) (engine : Engine) (nested : Text → Verdict) (text : Text) :
    Verdict :=
  match reader.fromStr text with
  | none =>
    if contains text "mutation" then WRITE
    else if engine.family = .weaviate then READ
    else WRITE
  | some (.object fields) => objectVerdict engine nested (.object fields)
  | some _ => WRITE

/-- `destructive::classify(..).pop()`. -/
def lastVerdict (text : Text) : Verdict :=
  match (classify text).getLast? with
  | some one => (one.kind, one.reason)
  | none => READ

/-- The words that stand in front of a query and are not its verb. -/
def prologueWords : List String := ["PREFIX", "BASE", "IMPORT", "DECLARE", "XQUERY", "VERSION"]

def sparqlWrites : List String :=
  ["INSERT", "DELETE", "LOAD", "CLEAR", "CREATE", "DROP", "COPY", "MOVE", "ADD"]

def xqueryUpdates : List String :=
  ["insert node", "delete node", "replace node", "replace value", "rename node", "db:create",
    "db:drop", "db:delete", "db:add", "db:put", "db:replace", "db:rename", "xmldb:store",
    "xmldb:remove", "xmldb:create-collection", "file:write", "update insert", "update delete",
    "update replace", "update value", "update rename"]

def aqlWrites : List String := ["INSERT", "UPDATE", "REPLACE", "REMOVE", "UPSERT"]

def fluxMarks (text : Text) : Bool :=
  contains text "|>" || startsWith text "from(" || startsWith text "buckets(" ||
    startsWith text "import"

def gremlinWrites : List String := ["addv", "adde", "property(", "drop()", "remove"]

/-- The arms of `native` for one family; where none answers, the shared verbs decide. -/
def familyVerdict (engine : Engine) (text verb : Text) (words : List Text) : Option Verdict :=
  match engine.family with
  | .prometheus => some READ
  | .convex => some (if isIn verb ["QUERY", "FUNCTIONS", "TABLES"] then READ else WRITE)
  | .hbase =>
    let first := toAsciiLowercase (firstWord text)
    some (if isIn first ["get", "scan", "list", "describe", "count", "exists", "status"] then READ
      else if isIn first ["drop", "truncate", "deleteall"] then
        destroy "This removes a whole table or row."
      else WRITE)
  | .sparql =>
    some (if sparqlWrites.any (has words) then
        if has words "DROP" || has words "CLEAR" then
          destroy "DROP / CLEAR removes a whole graph."
        else WRITE
      else READ)
  | .basex | .existdb =>
    let lower := toAsciiLowercase text
    some (if contains lower "db:drop" || contains lower "xmldb:remove" then
        destroy "This removes a whole database or collection."
      else if containsAny lower xqueryUpdates then WRITE
      else READ)
  | .arangodb => some (if aqlWrites.any (has words) then WRITE else READ)
  | .influxdb =>
    if fluxMarks text then
      some (if contains text "to(" || contains text "experimental.to" then WRITE else READ)
    else none
  | .weaviate =>
    if startsWith text "\x7b" || isIn verb ["GET", "AGGREGATE", "EXPLORE", "QUERY"] then some READ
    else if verb = "MUTATION".toList then some WRITE
    else none
  | .tigergraph =>
    if verb = "INTERPRET".toList then
      some (if ["INSERT", "DELETE", "UPDATE"].any (has words) then WRITE else READ)
    else if verb = "RUN".toList then some WRITE
    else none
  | .orientdb =>
    if startsWith (trimStart text) "g." then
      some (if containsAny (toAsciiLowercase text) gremlinWrites then WRITE else READ)
    else some (lastVerdict text)
  | .objectdb | .spacetimedb | .immudb =>
    if !isIn verb nativeReads || verb = "SELECT".toList then some (lastVerdict text) else none
  | _ => none

/-- The shared verbs of the shorthand consoles. -/
def sharedVerdict (verb : Text) (words : List Text) : Verdict :=
  if isIn verb ["DROP", "TRUNCATE", "PURGE", "FLUSH"] then
    destroy "This removes the object and everything in it."
  else if isIn verb nativeReads then
    if (words.drop 1).any fun word => isIn word ["INSERT", "UPSERT", "REMOVE", "MUTATION"] then
      WRITE
    else READ
  else if isIn verb nativeWrites then WRITE
  else WRITE

/-- The second word of a request line. -/
def restPath (text : Text) : Option Text :=
  (splitWhitespace text)[1]?.filter fun path =>
    startsWith path "/" || startsWith path "_" || path.contains '/'

/-- `native` on a text that is no JSON. -/
def wordsVerdict (engine : Engine) (text : Text) : Verdict :=
  let words := wordsUpper (stripQuoted text)
  match words.find? fun word => !isIn word prologueWords with
  | none => READ
  | some verb =>
    match if isIn verb restVerbs then restPath text else none with
    | some path => rest verb (toAsciiLowercase path)
    | none =>
      match familyVerdict engine text verb words with
      | some answer => answer
      | none => sharedVerdict verb words

/-- `native`, as deep as `fuel` into queries that JSON bodies hold. -/
def nativeWithin (reader : JsonReader) (engine : Engine) : Nat → Text → Verdict
  | 0, _ => WRITE
  | fuel + 1, statement =>
    let text := trim statement
    if startsWith text "\x7b" || startsWith text "[" then
      jsonCommand reader engine (nativeWithin reader engine fuel) text
    else wordsVerdict engine text

/-- A query inside a body is shorter than the body, so this is deep enough. -/
def native (reader : JsonReader) (engine : Engine) (statement : Text) : Verdict :=
  nativeWithin reader engine (statement.length + 1) statement

def classifyOne (reader : JsonReader) (engine : Engine) (dialect : Dialect) (statement : Text) :
    Verdict :=
  match dialect with
  | .sql => lastVerdict statement
  | .cypher => cypher statement
  | .redis => redis statement
  | .mongo => mongo reader statement
  | .memcached => memcached statement
  | .lines => keyedLines statement
  | .blocks | .console | .stream | .whole => native reader engine statement

/-- The statements of a text in its engine's language, blank ones left out. -/
def statementTexts (engine : Engine) (chars : Text) : List Text :=
  ((ranges (dialectOf engine) chars).map (lineText chars)).filter fun text => !text.isEmpty

/-- Every statement in a text, read in the engine's own language. -/
def classify (reader : JsonReader) (engine : Engine) (text : Text) : List ClassifiedStatement :=
  if dialectOf engine = .sql then Destructive.classify text
  else
    (statementTexts engine text).map fun statement =>
      let verdict := classifyOne reader engine (dialectOf engine) statement
      ⟨statement, verdict.1, verdict.2⟩

/-- What one step of `native` does with a text. -/
def nativeStep (reader : JsonReader) (engine : Engine) (nested : Text → Verdict)
    (statement : Text) : Verdict :=
  let text := trim statement
  if startsWith text "\x7b" || startsWith text "[" then jsonCommand reader engine nested text
  else wordsVerdict engine text

theorem jsonCommand_congr (reader : JsonReader) (engine : Engine) (nested nested' : Text → Verdict)
    (text : Text) (same : ∀ query : Text, query.length < text.length → nested query = nested' query) :
    jsonCommand reader engine nested text = jsonCommand reader engine nested' text := by
  unfold jsonCommand
  split
  · rfl
  · rename_i fields read
    unfold objectVerdict operationVerdict
    cases query : ((Json.object fields).get "query").bind Json.asStr with
    | none => rfl
    | some inner => simp only [same inner (reader.shorter text _ "query" inner read query)]
  · rfl

theorem nativeWithin_eq (reader : JsonReader) (engine : Engine) (fuel fuel' : Nat)
    (statement : Text) (enough : statement.length < fuel) (enough' : statement.length < fuel') :
    nativeWithin reader engine fuel statement = nativeWithin reader engine fuel' statement := by
  induction fuel generalizing fuel' statement with
  | zero => omega
  | succ fuel ih =>
    cases fuel' with
    | zero => omega
    | succ fuel' =>
      have shorter := trim_length statement
      rw [nativeWithin, nativeWithin,
        jsonCommand_congr reader engine _ (nativeWithin reader engine fuel') (trim statement)]
      intro query inside
      exact ih fuel' query (by omega) (by omega)

/-- `native` as the source writes it, calling itself on the query of a body. -/
theorem native_eq (reader : JsonReader) (engine : Engine) (statement : Text) :
    native reader engine statement = nativeStep reader engine (native reader engine) statement := by
  have shorter := trim_length statement
  rw [native, nativeWithin, nativeStep, jsonCommand_congr reader engine
    (nativeWithin reader engine statement.length) (native reader engine) (trim statement)]
  intro query inside
  exact nativeWithin_eq reader engine _ _ query (by omega) (Nat.lt_succ_self _)

end DbFree.GuardDialect
