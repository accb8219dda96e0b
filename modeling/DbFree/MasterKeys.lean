import DbFree.Interleaving
import DbFree.Keyring

/- The master key of the process: found or created once, then cached. Lookup, count,
creation and the write of the cache are steps of their own, and calls take turns at them. -/
namespace DbFree.MasterKeys

open Interleaving

structure CredentialStatus where
  storage : KeyStorage
  keyPath : Option Text
  lost : Bool
  lostSecrets : Nat
deriving DecidableEq

inductive KeyOp where
  /-- `OnceLock::get`, `get_or_init` and `set` of the cached key. -/
  | get
  | getOrInit (key : MasterKey)
  | set (key : MasterKey)
  | lookup
  | sealedSecretCount
  | create
  | clearSealedSecrets
  | storage
  | keyPath
  /-- A command stores a secret that it sealed with its key, or drops one. -/
  | put (key : MasterKey) (place : Place)
  | drop (place : Place) (index : Nat)
deriving DecidableEq

abbrev KeyOp.Answer : KeyOp → Type
  | .get => Option MasterKey
  | .getOrInit _ => MasterKey
  | .set _ => Unit
  | .lookup => Except AppError KeyLookup
  | .sealedSecretCount => Except AppError Nat
  | .create => Except AppError MasterKey
  | .clearSealedSecrets => Except AppError Unit
  | .storage => KeyStorage
  | .keyPath => Option Text
  | .put _ _ => Except AppError Unit
  | .drop _ _ => Except AppError Unit

/-- The state that the calls share, and what has happened in the run so far. -/
structure Keys where
  cached : Option MasterKey
  ring : OsKeyring
  secrets : SealedSecrets
  /-- The last key that `create` wrote or `lookup` found. -/
  held : Option MasterKey
  /-- The key a thread has found or created and not yet offered to the cache. -/
  pending : Nat → Option MasterKey
  /-- The keys that secrets were sealed with. -/
  sealedWith : List MasterKey
  /-- A key was created while secrets were sealed under an earlier one. -/
  orphaned : Bool

namespace Keys

def start (ring : OsKeyring) (secrets : SealedSecrets) : Keys where
  cached := none
  ring := ring
  secrets := secrets
  held := none
  pending _ := none
  sealedWith := []
  orphaned := false

/-- The thread has got the key from the provider. -/
def obtain (keys : Keys) (thread : Nat) (key : MasterKey) : Keys :=
  { keys with held := some key, pending := Function.update keys.pending thread (some key) }

/-- The cache takes the key of the thread, unless it has one. -/
def offer (keys : Keys) (thread : Nat) (key : MasterKey) : Keys :=
  { keys with
    cached := some (keys.cached.getD key)
    pending := Function.update keys.pending thread none }

def lookup (keys : Keys) (thread : Nat) (surroundings : Surroundings) :
    Except AppError KeyLookup × Keys :=
  match keys.ring.lookup surroundings with
  | (.ok (.found key), ring) => (.ok (.found key), { keys with ring }.obtain thread key)
  | (answer, ring) => (answer, { keys with ring })

def create (keys : Keys) (thread : Nat) (surroundings : Surroundings) :
    Except AppError MasterKey × Keys :=
  let noted := { keys with orphaned := keys.orphaned || !decide keys.secrets.Empty }
  match keys.ring.create surroundings with
  | (.ok key, ring) => (.ok key, { noted with ring }.obtain thread key)
  | (.error error, ring) => (.error error, { noted with ring })

def exec (thread : Nat) (keys : Keys) : (op : KeyOp) → Surroundings → Option (op.Answer × Keys)
  | .get, _ => some (keys.cached, keys)
  | .getOrInit key, _ => some (keys.cached.getD key, keys.offer thread key)
  | .set key, _ => some ((), keys.offer thread key)
  | .lookup, surroundings => some (keys.lookup thread surroundings)
  | .sealedSecretCount, surroundings =>
    match surroundings.storeFails with
    | some (error, _) => some (.error error, keys)
    | none => some (.ok keys.secrets.sealedSecretCount, keys)
  | .create, surroundings => some (keys.create thread surroundings)
  | .clearSealedSecrets, surroundings =>
    match surroundings.storeFails with
    | some (error, tables) =>
      some (.error error, { keys with secrets := keys.secrets.clearSealedSecrets tables })
    | none => some (.ok (), { keys with secrets := keys.secrets.clearSealedSecrets 3 })
  | .storage, _ => some (keys.ring.storage, keys)
  | .keyPath, _ => some (keys.ring.keyPath, keys)
  | .put key place, surroundings =>
    match surroundings.storeFails with
    | some (error, _) => some (.error error, keys)
    | none => some (.ok (), { keys with
        secrets := keys.secrets.put key place
        sealedWith := key :: keys.sealedWith })
  | .drop place index, surroundings =>
    match surroundings.storeFails with
    | some (error, _) => some (.error error, keys)
    | none => some (.ok (), { keys with secrets := keys.secrets.drop place index })

end Keys

abbrev KeyProg := Prog KeyOp KeyOp.Answer

def get : KeyProg (Option MasterKey) := .ask KeyOp.get
def getOrInit (key : MasterKey) : KeyProg MasterKey := .ask (KeyOp.getOrInit key)
def set (key : MasterKey) : KeyProg Unit := .ask (KeyOp.set key)
def lookup : KeyProg (Except AppError KeyLookup) := .ask KeyOp.lookup
def sealedSecretCount : KeyProg (Except AppError Nat) := .ask KeyOp.sealedSecretCount
def create : KeyProg (Except AppError MasterKey) := .ask KeyOp.create
def clearSealedSecrets : KeyProg (Except AppError Unit) := .ask KeyOp.clearSealedSecrets
def storage : KeyProg KeyStorage := .ask KeyOp.storage
def keyPath : KeyProg (Option Text) := .ask KeyOp.keyPath
def put (key : MasterKey) (place : Place) : KeyProg (Except AppError Unit) :=
  .ask (KeyOp.put key place)
def drop (place : Place) (index : Nat) : KeyProg (Except AppError Unit) :=
  .ask (KeyOp.drop place index)

inductive Resolved where
  | key (key : MasterKey)
  /-- The number of sealed secrets that a missing key left unreadable. -/
  | lost (sealed : Nat)
deriving DecidableEq

def credentialsLostMessage (sealed : Nat) : Text :=
  "Credentials lost: the OS keychain no longer holds DB Free's encryption key, so ".toList ++
    (toString sealed).toList ++ " saved password".toList ++
    (if sealed = 1 then [] else "s".toList) ++
    " can't be decrypted. Clear them from the Connections page, then enter each password again.".toList

def lockedMessage (reason : Text) : Text :=
  "The OS keychain could not be read (".toList ++ reason ++
    "). Saved passwords stay locked until it can; unlock it and try again.".toList

/-- A new key, where nothing is sealed; otherwise the answer to the number of secrets. -/
def createUnlessSealed (otherwise : Nat → Except AppError Resolved) :
    KeyProg (Except AppError Resolved) := do
  match ← sealedSecretCount with
  | .error error => return .error error
  | .ok 0 =>
    match ← create with
    | .error error => return .error error
    | .ok key => return .ok (.key key)
  | .ok sealed => return otherwise sealed

def resolveMasterKey : KeyProg (Except AppError Resolved) := do
  match ← lookup with
  | .error error => return .error error
  | .ok (.found key) => return .ok (.key key)
  | .ok .missing => createUnlessSealed fun lost => .ok (.lost lost)
  | .ok (.unavailable reason) =>
    createUnlessSealed fun _ => .error (.keyring (lockedMessage reason))

def masterKey : KeyProg (Except AppError MasterKey) := do
  match ← get with
  | some key => return .ok key
  | none =>
    match ← resolveMasterKey with
    | .error error => return .error error
    | .ok (.key key) => return .ok (← getOrInit key)
    | .ok (.lost sealed) => return .error (.keyring (credentialsLostMessage sealed))

/-- The key is lost, and how many secrets with it. -/
def lostSecrets : KeyProg (Except AppError (Bool × Nat)) := do
  match ← get with
  | some _ => return .ok (false, 0)
  | none =>
    match ← resolveMasterKey with
    | .error error => return .error error
    | .ok (.key key) =>
      let _ ← set key
      return .ok (false, 0)
    | .ok (.lost sealed) => return .ok (true, sealed)

def credentialStatus : KeyProg (Except AppError CredentialStatus) := do
  match ← lostSecrets with
  | .error error => return .error error
  | .ok (lost, lostSecrets) =>
    let storage ← storage
    let keyPath ← keyPath
    return .ok { storage, keyPath, lost, lostSecrets }

def nothingToReset : AppError :=
  .invalidInput "Saved passwords are intact; there is nothing to reset.".toList

def resetCredentials : KeyProg (Except AppError CredentialStatus) := do
  match ← credentialStatus with
  | .error error => return .error error
  | .ok status =>
    if !status.lost then return .error nothingToReset
    else
      match ← clearSealedSecrets with
      | .error error => return .error error
      | .ok () =>
        match ← create with
        | .error error => return .error error
        | .ok key =>
          let _ ← set key
          credentialStatus

/-- A command that seals one secret for each place it saves one at. -/
def sealSecrets : List Place → KeyProg (Except AppError Unit)
  | [] => return .ok ()
  | place :: rest => do
    match ← masterKey with
    | .error error => return .error error
    | .ok key =>
      match ← put key place with
      | .error error => return .error error
      | .ok () => sealSecrets rest

inductive Command where
  | sealSecrets (places : List Place)
  | credentialStatus
  | resetCredentials
  | dropSecret (place : Place) (index : Nat)
deriving DecidableEq

/-- What a command answers, its value left out. -/
def Command.program : Command → KeyProg (Except AppError Unit)
  | .sealSecrets places => MasterKeys.sealSecrets places
  | .credentialStatus => return (← MasterKeys.credentialStatus).map fun _ => ()
  | .resetCredentials => return (← MasterKeys.resetCredentials).map fun _ => ()
  | .dropSecret place index => MasterKeys.drop place index

end DbFree.MasterKeys
