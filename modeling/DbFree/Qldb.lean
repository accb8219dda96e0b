import DbFree.Destructive
import DbFree.Errors
import DbFree.Interleaving
import DbFree.Sha256

/- Amazon QLDB: the digest of a transaction, and the calls that share one session of the
ledger (integrations/qldb.rs). -/
namespace DbFree.Qldb

open Interleaving Sha256 Texts

section Digest

/-- `[u8; 32]`. -/
abbrev Digest := Vector UInt8 32

/-- Ion-hash of an Ion string. -/
def ionHashString (s : Text) : Digest :=
  let escaped := (s.flatMap String.utf8EncodeChar).flatMap fun b =>
    if b = 0x0B ∨ b = 0x0C ∨ b = 0x0E then [0x0C, b] else [b]
  sha256 ([0x0B, 0x80] ++ escaped ++ [0x0E])

/-- The loop of `hash_cmp`: the first byte that differs, as a signed one. -/
def signedCmp : List UInt8 → List UInt8 → Ordering
  | x :: xs, y :: ys =>
    if x = y then signedCmp xs ys else compare x.toInt8.toInt y.toInt8.toInt
  | _, _ => .eq

/-- Compares two hashes as reversed signed-byte arrays. -/
def hashCmp (a b : Digest) : Ordering := signedCmp a.toList.reverse b.toList.reverse

def qldbDot (a b : Digest) : Digest :=
  if hashCmp a b = .lt then sha256 (a.toList ++ b.toList) else sha256 (b.toList ++ a.toList)

def commitDigest (txnId : Text) (statements : List Text) : Digest :=
  statements.foldl (fun h s => qldbDot h (ionHashString s)) (ionHashString txnId)

end Digest

section Calls

/-- What the calls use of the rest: Ion, base64 and the case of letters. -/
structure Formats (Ion ResultSet : Type) where
  base64 : Digest → Text
  /-- `decode_datagram` of what is encoded in base64. -/
  decodeIon : Text → Except AppError (List Ion)
  string : Text → Ion
  toUppercase : Text → Text
  valuesToResult : List Ion → ResultSet

/-- A value of a page, binary or text. -/
structure Holder where
  ionBinary : Option Text
  ionText : Option Text

structure Page where
  values : List Holder
  nextPageToken : Option Text

/-- What the source reads of a response of the service. -/
structure Response where
  transactionId : Option Text
  /-- The first page of a statement, or the page fetched. -/
  page : Page

inductive Command where
  | startTransaction
  | executeStatement (transactionId statement : Text)
  | fetchPage (transactionId nextPageToken : Text)
  | commitTransaction (transactionId commitDigest : Text)
  | abortTransaction
deriving DecidableEq

inductive StatementResult (ResultSet : Type) where
  | affected (rowsAffected : Nat)
  | rows (result : ResultSet) (truncated : Bool)

variable {Ion ResultSet : Type}

inductive SessionOp (ResultSet : Type) where
  /-- The token of the shared session, which is started where there is none. -/
  | sessionToken
  | send (token : Text) (command : Command)
  /-- The session is no longer valid. -/
  | forget
  /-- A call of `execute` hands back its answer. -/
  | answer (script : Text) (answer : Except AppError (List (StatementResult ResultSet)))
  /-- A call that waits forever. -/
  | hang

abbrev SessionOp.Answer : SessionOp ResultSet → Type
  | .sessionToken => Except AppError Text
  | .send _ _ => Except AppError Response
  | .forget | .answer _ _ | .hang => Unit

abbrev Code (ResultSet : Type) := Prog (SessionOp ResultSet) SessionOp.Answer

def ask (op : SessionOp ResultSet) : Code ResultSet op.Answer := Prog.ask op

/-- `?`: the rest runs where nothing failed. -/
def orFail {α β : Type} (first : Code ResultSet (Except AppError α))
    (next : α → Code ResultSet (Except AppError β)) : Code ResultSet (Except AppError β) :=
  first.bind fun answer =>
    match answer with
    | .ok value => next value
    | .error error => .done (.error error)

def driver (message : Text) : AppError := .driver message none none none

def command (token : Text) (cmd : Command) : Code ResultSet (Except AppError Response) :=
  (ask (.send token cmd)).bind fun answer =>
    match answer with
    | .error error =>
      if contains error.message "InvalidSession" then
        (ask .forget).bind fun _ => .done (.error (.notConnected
          "QLDB session expired; run the statement again.".toList))
      else .done (.error error)
    | .ok response => .done (.ok response)

def abort (token : Text) : Code ResultSet Unit :=
  (command token .abortTransaction).bind fun _ => .done ()

variable (formats : Formats Ion ResultSet)

/-- The values of a page; a holder of neither kind is skipped. -/
def pageValues : List Holder → Except AppError (List Ion)
  | [] => .ok []
  | holder :: rest =>
    match holder.ionBinary, holder.ionText with
    | some b64, _ => do return (← formats.decodeIon b64) ++ (← pageValues rest)
    | none, some text => do return formats.string text :: (← pageValues rest)
    | none, none => pageValues rest

/-- The pages of a statement, one after the other; a call that needs more of them than
`fuel` is never heard of again. -/
def fetchPages (token txn : Text) (maxValues : Nat) :
    Nat → Page → List Ion → Code ResultSet (Except AppError (List Ion))
  | fuel, page, values =>
    match pageValues formats page.values with
    | .error error => .done (.error error)
    | .ok more =>
      match page.nextPageToken with
      | some next =>
        if (values ++ more).length < maxValues then
          match fuel with
          | 0 => (ask .hang).bind fun _ => .done (.ok [])
          | fuel + 1 =>
            orFail (command token (.fetchPage txn next)) fun fetched =>
              fetchPages token txn maxValues fuel fetched.page (values ++ more)
        else .done (.ok (values ++ more))
      | none => .done (.ok (values ++ more))

def runStatement (fuel : Nat) (token txn stmt : Text) (maxValues : Nat) :
    Code ResultSet (Except AppError (List Ion)) :=
  orFail (command token (.executeStatement txn stmt)) fun resp =>
    orFail (fetchPages formats token txn maxValues fuel resp.page []) fun values =>
      .done (.ok (values.take (max maxValues 1)))

/-- The loop over the statements: the first that fails ends the transaction. -/
def runStatements (fuel : Nat) (token txn : Text) (maxValues : Nat) :
    List Text → List (List Ion) → Code ResultSet (Except AppError (List (List Ion)))
  | [], results => .done (.ok results)
  | stmt :: rest, results =>
    (runStatement formats fuel token txn stmt maxValues).bind fun answer =>
      match answer with
      | .ok vals => runStatements fuel token txn maxValues rest (results ++ [vals])
      | .error error => (abort token).bind fun _ => .done (.error error)

/-- The end of a transaction whose statements have all run: a commit with the hash-chain
digest, or an abort. -/
def finish (token txn : Text) (statements : List Text) (commit : Bool)
    (results : List (List Ion)) : Code ResultSet (Except AppError (List (List Ion))) :=
  if commit then
    let digest := formats.base64 (commitDigest txn statements)
    (command token (.commitTransaction txn digest)).bind fun resp =>
      match resp with
      | .error error => (abort token).bind fun _ => .done (.error (driver
          ("QLDB commit failed (transaction rolled back): ".toList ++ error.message)))
      | .ok _ => .done (.ok results)
  else (abort token).bind fun _ => .done (.ok results)

/-- Runs statements in one transaction of the shared session. -/
def transaction (fuel : Nat) (statements : List Text) (maxValues : Nat) (commit : Bool) :
    Code ResultSet (Except AppError (List (List Ion))) :=
  orFail (ask .sessionToken) fun token =>
    orFail (command token .startTransaction) fun start =>
      match start.transactionId with
      | none => .done (.error (driver "QLDB did not return a transaction id.".toList))
      | some txn =>
        orFail (runStatements formats fuel token txn maxValues statements []) fun results =>
          finish formats token txn statements commit results

def writeLeaders : List String := ["INSERT", "UPDATE", "DELETE", "CREATE", "DROP", "UNDROP", "FROM"]

def isWrite (stmt : Text) : Bool :=
  isIn (formats.toUppercase ((splitWhitespace stmt).head?.getD [])) writeLeaders

/-- The statements that `execute` sends for a script. -/
def statementsOf (sql : Text) : List Text :=
  ((Destructive.splitStatements sql).map fun s => trim ((trim s).rdropWhile (· == ';'))).filter
    fun s => !s.isEmpty

def statementResult (maxRows : Nat) (stmt : Text) (vals : List Ion) : StatementResult ResultSet :=
  if isWrite formats stmt then .affected vals.length
  else .rows (formats.valuesToResult vals) (maxRows ≤ vals.length)

def execute (fuel : Nat) (readOnly : Bool) (sql : Text) (maxRows : Nat) :
    Code ResultSet (Except AppError (List (StatementResult ResultSet))) :=
  let statements := statementsOf sql
  let writes := statements.any (isWrite formats)
  if statements.isEmpty then .done (.error (.invalidInput "Nothing to run.".toList))
  else if writes && readOnly then
    .done (.error (.readOnly
      "This connection is read-only; INSERT/UPDATE/DELETE/CREATE/DROP are blocked.".toList))
  else
    orFail (transaction formats fuel statements maxRows writes) fun results =>
      .done (.ok (List.zipWith (statementResult formats maxRows) statements results))

/-- The calls that share the session: a script of the user, and a query of the explorer. -/
inductive Call where
  | execute (readOnly : Bool) (sql : Text) (maxRows : Nat)
  | select (sql : Text) (maxValues : Nat)

def program (fuel : Nat) : Call → Code ResultSet Unit
  | .execute readOnly sql maxRows =>
    (execute formats fuel readOnly sql maxRows).bind fun answer => ask (.answer sql answer)
  | .select sql maxValues =>
    (transaction formats fuel [sql] maxValues false).bind fun _ => .done ()

end Calls

end DbFree.Qldb
