import DbFree.Errors
import DbFree.Interleaving

/- Memcached over its text protocol: scripts, replies, and the one connection that reads
them (integrations/memcached.rs). -/
namespace DbFree.Memcached

open Interleaving Texts

/-- How a command's reply ends. -/
inductive ReplyShape where
  | line
  /-- Lines up to one that `isTerminalLine`. -/
  | untilEnd
  | none
deriving DecidableEq

section Commands

def firstWord (text : Text) : Text := (splitWhitespace text).head?.getD []

def verbOf (command : Text) : Text := toAsciiLowercase (firstWord command)

def isTerminalLine (line : Text) : Bool :=
  isIn (firstWord line) ["END", "ERROR", "CLIENT_ERROR", "SERVER_ERROR", "RESET", "OK", "BUSY",
    "BADCLASS", "NOSPARE", "NOTFULL", "UNSAFE", "SAME"]

/-- `eq_ignore_ascii_case` with the word `noreply`. -/
def isNoreply (word : Text) : Bool := toAsciiLowercase word = "noreply".toList

def replyShape (command : Text) : ReplyShape :=
  if (splitWhitespace command).getLast?.any isNoreply || isIn (verbOf command) ["quit"] then .none
  else if isIn (verbOf command) ["get", "gets", "gat", "gats", "stats", "mg", "lru_crawler"] then
    .untilEnd
  else .line

def isStorageCommand (verb : Text) : Bool :=
  isIn verb ["set", "add", "replace", "append", "prepend", "cas"]

def isWriteCommand (verb : Text) : Bool :=
  isStorageCommand verb || isIn verb ["delete", "incr", "decr", "touch", "flush_all", "ms", "md",
    "ma", "verbosity", "slabs", "lru"]

/-- `str::len`. -/
def byteLen (text : Text) : Nat := (text.flatMap String.utf8EncodeChar).length

/-- `words.join(" ")`. -/
def joined (words : List Text) : Text := (words.intersperse [' ']).flatten

/-- The command line of a storage command, its length of the data filled in. -/
def storageLine (line data : Text) : Except AppError Text :=
  let words := splitWhitespace line
  let verb := verbOf line
  let noreply := if words.getLast?.any isNoreply then 1 else 0
  let fixed := if isIn verb ["cas"] then 6 else 5
  let bodyLen := decimal (byteLen data)
  let count := words.length - noreply
  if count = fixed - 1 then .ok (joined (words.insertIdx (words.length - noreply) bodyLen))
  else if count = fixed then
    let last := words.length - 1 - noreply
    .ok (joined (words.set (if isIn verb ["cas"] then last - 1 else last) bodyLen))
  else if count = 2 then .ok (joined (words ++ ["0".toList, "0".toList, bodyLen]))
  else .error (.invalidInput ('\x60' :: line ++ "\x60: expected \x60".toList ++ verb ++
    " <key> <flags> <exptime>\x60 followed by the value on the next line.".toList))

/-- `str::lines`. -/
def scriptLines (script : Text) : List Text :=
  let parts := script.splitOn '\n'
  (if parts.getLast? = some [] then parts.dropLast else parts).map fun line =>
    if line.getLast? = some '\r' then line.dropLast else line

/-- The lines of a script; a storage command waits for the line with its data. -/
def parseLines : Option Text → List Text → Except AppError (List (Text × Option Text))
  | some line, next :: rest => do
    let data := next.rdropWhile (· == '\r')
    return (← storageLine line data, some data) :: (← parseLines none rest)
  | some line, [] => do return [(← storageLine line [], some [])]
  | none, next :: rest =>
    let line := trim next
    if line.isEmpty || line.head? = some '#' then parseLines none rest
    else if isStorageCommand (verbOf line) then parseLines (some line) rest
    else do return (line, none) :: (← parseLines none rest)
  | none, [] => .ok []

/-- Script to command lines, each with its data block. -/
def parseScript (script : Text) : Except AppError (List (Text × Option Text)) :=
  parseLines none (scriptLines script)

example : parseScript "set a 0 0\nhello world\nget a\ncas d 0 0 1 42\nzz".toList =
    .ok [("set a 0 0 11".toList, some "hello world".toList), ("get a".toList, none),
      ("cas d 0 0 2 42".toList, some "zz".toList)] := by
  decide +kernel

end Commands

section Reading

def MAX_RESPONSE_BYTES : Nat := 64 * 1024 * 1024

/-- The size of the chunk that one read fills. -/
def CHUNK : Nat := 8192

/-- What a read of the socket gives. -/
inductive Read where
  | bytes (count : Nat)
  | timedOut
  | failed (error : Text)
  | closed
deriving DecidableEq

def Read.isBytes : Read → Bool
  | .bytes _ => true
  | .timedOut | .failed _ | .closed => false

def driver (message : String) : AppError := .driver message.toList none none none

/-- The buffer of one reply, and the bytes of the server that it has not received. -/
structure LineReader where
  buf : List UInt8
  pos : Nat
  incoming : List UInt8
deriving DecidableEq

namespace LineReader

/-- What is still to be read: in the buffer, and on the way. -/
def unread (reader : LineReader) : List UInt8 := reader.buf.drop reader.pos ++ reader.incoming

/-- A buffer that has been read to its end is emptied first. -/
def fresh (reader : LineReader) : LineReader :=
  if 0 < reader.pos ∧ reader.pos = reader.buf.length then { reader with buf := [], pos := 0 }
  else reader

/-- The bytes that a read adds to the buffer. -/
def receive (reader : LineReader) (count : Nat) : LineReader :=
  { reader with
    buf := reader.buf ++ reader.incoming.take count
    incoming := reader.incoming.drop count }

/-- One read; `none` where the socket cannot give it. -/
def fill (reader : LineReader) : Read → Option (Except AppError LineReader)
  | .bytes count =>
    if 0 < count ∧ count ≤ CHUNK ∧ count ≤ reader.incoming.length then
      let filled := reader.fresh.receive count
      if MAX_RESPONSE_BYTES < filled.buf.length then
        some (.error (driver "memcached reply exceeded the 64 MiB cap."))
      else some (.ok filled)
    else none
  | .timedOut => some (.error (driver "Timed out waiting for memcached."))
  | .failed error =>
    some (.error (.driver ("memcached read failed: ".toList ++ error) none none none))
  | .closed => some (.error (driver "memcached closed the connection."))

/-- What reading gives: a value, the reader behind it and the reads that are left. -/
abbrev Heard (α : Type) := Option (Except AppError (α × LineReader × List Read))

variable (lossy : List UInt8 → Text)

/-- A line as text: `from_utf8_lossy`, its carriage returns trimmed. -/
def lineText (line : List UInt8) : Text := (lossy line).rdropWhile (· == '\r')

def readLine : List Read → LineReader → Heard Text
  | reads, reader =>
    let held := reader.buf.drop reader.pos
    match held.findIdx? (· = 0x0A) with
    | some i =>
      some (.ok (lineText lossy (held.take i), { reader with pos := reader.pos + i + 1 }, reads))
    | none =>
      match reads with
      | [] => none
      | read :: rest =>
        match reader.fill read with
        | some (.ok filled) => readLine rest filled
        | some (.error error) => some (.error error)
        | none => none

def readExact (n : Nat) : List Read → LineReader → Heard (List UInt8)
  | reads, reader =>
    let held := reader.buf.drop reader.pos
    if n ≤ held.length then
      some (.ok (held.take n, { reader with pos := reader.pos + n }, reads))
    else
      match reads with
      | [] => none
      | read :: rest =>
        match reader.fill read with
        | some (.ok filled) => readExact n rest filled
        | some (.error error) => some (.error error)
        | none => none

end LineReader

/-- `n.parse::<usize>()`. -/
def parseUsize (word : Text) : Option Nat :=
  let digits := if word.head? = some '+' then word.tail else word
  if digits.isEmpty || !digits.all Char.isDigit then none
  else
    let value := digits.foldl (fun value digit => value * 10 + (digit.toNat - '0'.toNat)) 0
    if value < 2 ^ 64 then some value else none

/-- The length that a `VALUE key flags bytes` line announces. -/
def announced (line : Text) : Nat := ((splitWhitespace line)[3]?.bind parseUsize).getD 0

variable (lossy : List UInt8 → Text)

/-- The loop of `read_reply`, with as many lines as `fuel` at most. -/
def readLines (shape : ReplyShape) : Nat → List Read → LineReader → LineReader.Heard (List Text)
  | 0, _, _ => none
  | fuel + 1, reads, reader =>
    match reader.readLine lossy reads with
    | some (.ok (line, reader, reads)) =>
      if startsWith line "VALUE " then
        match reader.readExact (announced line + 2) reads with
        | some (.ok (data, reader, reads)) =>
          match readLines shape fuel reads reader with
          | some (.ok (lines, reader, reads)) =>
            some (.ok (line :: lossy (data.take (announced line)) :: lines, reader, reads))
          | other => other
        | some (.error error) => some (.error error)
        | none => none
      else if shape = .untilEnd ∧ isTerminalLine line = false then
        match readLines shape fuel reads reader with
        | some (.ok (lines, reader, reads)) => some (.ok (line :: lines, reader, reads))
        | other => other
      else some (.ok ([line], reader, reads))
    | some (.error error) => some (.error error)
    | none => none

/-- Reads a reply, and leaves the bytes that were not received. What the reader still holds
goes with it. Each line takes a byte at least. -/
def readReply (shape : ReplyShape) (incoming : List UInt8) (reads : List Read) :
    Option (Except AppError (List Text × List UInt8)) :=
  if shape = .none then some (.ok ([], incoming))
  else
    match readLines lossy shape (incoming.length + 1) reads ⟨[], 0, incoming⟩ with
    | some (.ok (lines, reader, _)) => some (.ok (lines, reader.incoming))
    | some (.error error) => some (.error error)
    | none => none

end Reading

section Exchange

/-- What happens to one copy of a command. -/
structure Attempt where
  /-- Why no connection can be opened for it. -/
  refused : Option AppError
  writeError : Option AppError
  /-- Whether the whole of it reaches the server, and what the server sends for it. -/
  received : Bool
  reply : List UInt8
  reads : List Read
deriving DecidableEq

/-- What the server sends for a copy. -/
def Attempt.sent (attempt : Attempt) : List UInt8 :=
  if attempt.received then attempt.reply else []

/-- The bytes of a command and its data block. -/
def payload (command : Text) (data : Option Text) : List UInt8 :=
  (trim command ++ "\r\n".toList ++ (data.map fun block => block ++ "\r\n".toList).getD []).flatMap
    String.utf8EncodeChar

variable (lossy : List UInt8 → Text)

/-- One copy of a command, on a connection with bytes that are not received yet. -/
def roundtrip (incoming : List UInt8) (command : Text) (attempt : Attempt) :
    Option (Except AppError (List Text × List UInt8)) :=
  match attempt.writeError with
  | some error => some (.error error)
  | none => readReply lossy (replyShape command) (incoming ++ attempt.sent) attempt.reads

inductive MemcachedOp where
  /-- One command on the shared connection, which is held until it has its reply. -/
  | command (command : Text) (data : Option Text)

abbrev MemcachedOp.Answer : MemcachedOp → Type
  | .command _ _ => Except AppError (List Text)

abbrev Code := Prog MemcachedOp MemcachedOp.Answer

def command (command : Text) (data : Option Text) : Code (Except AppError (List Text)) :=
  Prog.ask (.command command data)

/-- A reply that reports an error ends the script (`reply_to_statement`). -/
def refusal (lines : List Text) : Option AppError :=
  lines.head?.bind fun first =>
    if isIn (firstWord first) ["ERROR", "CLIENT_ERROR", "SERVER_ERROR"] then
      some (.invalidInput ("memcached: ".toList ++ trim first))
    else none

/-- The commands of a script, one after the other, with the lines of their replies. -/
def runCommands (readOnly : Bool) :
    List (Text × Option Text) → Code (Except AppError (List (Text × List Text)))
  | [] => .done (.ok [])
  | (line, data) :: rest =>
    let verb := verbOf line
    if readOnly && isWriteCommand verb then
      .done (.error (.invalidInput ("This connection is read-only; \x60".toList ++ verb ++
        "\x60 is refused.".toList)))
    else if isIn verb ["quit"] then
      .done (.error (.invalidInput
        "\x60quit\x60 would close the session; disconnect from the sidebar instead.".toList))
    else
      (command line data).bind fun answer =>
        match answer with
        | .error error => .done (.error error)
        | .ok lines =>
          match refusal lines with
          | some error => .done (.error error)
          | none =>
            (runCommands readOnly rest).bind fun others =>
              .done (others.map fun others => (line, lines) :: others)

def execute (readOnly : Bool) (script : Text) : Code (Except AppError (List (Text × List Text))) :=
  match parseScript script with
  | .error error => .done (.error error)
  | .ok [] => .done (.error (.invalidInput ("Nothing to run. Try \x60stats\x60, \x60get <key>\x60 or" ++
      " \x60set <key> 0 0\x60 with the value on the next line.").toList))
  | .ok commands => runCommands readOnly commands

/-- The calls that share the connection: a script, and a command of the explorer. -/
inductive Call where
  | execute (readOnly : Bool) (script : Text)
  | explore (command : Text)

def program : Call → Code (Except AppError (List (Text × List Text)))
  | .execute readOnly script => execute readOnly script
  | .explore line =>
    (command line none).bind fun answer => .done (answer.map fun lines => [(line, lines)])

end Exchange

end DbFree.Memcached
