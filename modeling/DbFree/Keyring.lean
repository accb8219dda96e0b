import DbFree.Errors

/- Where the master key comes from: the keychain of the system, with a file to fall back
on, and the sealed secrets of the store that the key protects. -/
namespace DbFree.MasterKeys

/-- A master key, known by its number. -/
abbrev MasterKey := Nat

/-- What a place that should hold an encoded key holds. -/
inductive Stored where
  | absent
  | key (key : MasterKey)
  | corrupt (error : AppError)
deriving DecidableEq

inductive KeyLookup where
  | found (key : MasterKey)
  | missing
  | unavailable (reason : Text)
deriving DecidableEq

inductive KeyStorage where
  | keychain
  | file
  | memory
deriving DecidableEq

structure KeyFile where
  path : Text
  contents : Stored
deriving DecidableEq

structure OsKeyring where
  entry : Stored
  file : Option KeyFile
  usingFile : Bool
deriving DecidableEq

/-- How writing the key file ends. -/
inductive FileWrite where
  | written
  /-- The file could not be created. -/
  | refused (error : Text)
  /-- The file was created, but writing it failed and left this in it. -/
  | torn (error : AppError) (left : Stored)
deriving DecidableEq

/-- What the surroundings answer to one operation. -/
structure Surroundings where
  /-- Why the keychain cannot be asked, if it cannot. -/
  locked : Option Text
  /-- Why the key file cannot be read, if it cannot. -/
  unreadable : Option Text
  fileWrite : FileWrite
  /-- The key that `MasterKey::generate` draws. -/
  generated : MasterKey
  /-- The failure of the local store, if it fails, and how many tables it had gone through. -/
  storeFails : Option (AppError × Nat)
deriving DecidableEq

namespace Stored

/-- `decode_key` on what is there. -/
def load : Stored → Except AppError (Option MasterKey)
  | .absent => .ok none
  | .key held => .ok (some held)
  | .corrupt error => .error error

end Stored

namespace KeyFile

def load (file : KeyFile) (surroundings : Surroundings) : Except AppError (Option MasterKey) :=
  match surroundings.unreadable with
  | some error =>
    .error (.keyring ("could not read the master key file ".toList ++ file.path ++
      ": ".toList ++ error))
  | none => file.contents.load

def couldNotCreate (file : KeyFile) (error : Text) : AppError :=
  .keyring ("could not create the master key file ".toList ++ file.path ++ ": ".toList ++ error)

/-- An existing key file is never replaced. -/
def store (file : KeyFile) (key : MasterKey) (surroundings : Surroundings) :
    Except AppError Unit × KeyFile :=
  if file.contents ≠ .absent then
    (.error (file.couldNotCreate "File exists (os error 17)".toList), file)
  else
    match surroundings.fileWrite with
    | .written => (.ok (), { file with contents := .key key })
    | .refused error => (.error (file.couldNotCreate error), file)
    | .torn error left => (.error error, { file with contents := left })

theorem store_ok {file next : KeyFile} {key : MasterKey} {surroundings : Surroundings}
    (stored : file.store key surroundings = (.ok (), next)) : next.contents = .key key := by
  unfold store at stored
  split at stored
  · exact nomatch (Prod.mk.inj stored).1
  · split at stored
    · rw [← (Prod.mk.inj stored).2]
    · exact nomatch (Prod.mk.inj stored).1
    · exact nomatch (Prod.mk.inj stored).1

end KeyFile

namespace OsKeyring

inductive OsFailure where
  | corrupt (error : AppError)
  | unavailable (reason : Text)
deriving DecidableEq

def osLoad (ring : OsKeyring) (surroundings : Surroundings) :
    Except OsFailure (Option MasterKey) :=
  match surroundings.locked with
  | some reason => .error (.unavailable reason)
  | none =>
    match ring.entry.load with
    | .ok key => .ok key
    | .error error => .error (.corrupt error)

def inFile (ring : OsKeyring) (surroundings : Surroundings) :
    Except AppError (Option MasterKey) :=
  match ring.file with
  | some file => file.load surroundings
  | none => .ok none

/-- The key of the file, or what the caller makes of there being none. -/
def fileOr (ring : OsKeyring) (surroundings : Surroundings) (otherwise : KeyLookup) :
    Except AppError KeyLookup × OsKeyring :=
  match ring.inFile surroundings with
  | .error error => (.error error, ring)
  | .ok (some key) => (.ok (.found key), { ring with usingFile := true })
  | .ok none => (.ok otherwise, ring)

def lookup (ring : OsKeyring) (surroundings : Surroundings) :
    Except AppError KeyLookup × OsKeyring :=
  match ring.osLoad surroundings with
  | .ok (some key) => (.ok (.found key), ring)
  | .ok none => ring.fileOr surroundings .missing
  | .error (.corrupt error) => (.error error, ring)
  | .error (.unavailable reason) => ring.fileOr surroundings (.unavailable reason)

def create (ring : OsKeyring) (surroundings : Surroundings) :
    Except AppError MasterKey × OsKeyring :=
  let key := surroundings.generated
  match surroundings.locked, ring.file with
  | none, _ => (.ok key, { ring with entry := .key key, usingFile := false })
  | some _, some file =>
    match file.store key surroundings with
    | (.ok (), file) => (.ok key, { ring with file := some file, usingFile := true })
    | (.error error, file) => (.error error, { ring with file := some file })
  | some error, none => (.error (.keyring error), ring)

def storage (ring : OsKeyring) : KeyStorage := if ring.usingFile then .file else .keychain

def keyPath (ring : OsKeyring) : Option Text :=
  (ring.file.filter fun _ => ring.usingFile).map KeyFile.path

/-- What the key file holds, nothing where there is no fallback. -/
def filed (ring : OsKeyring) : Stored :=
  match ring.file with
  | some file => file.contents
  | none => .absent

/-- The key that a start of the program finds once the keychain answers. -/
def Opens (ring : OsKeyring) (key : MasterKey) : Prop :=
  ring.entry = .key key ∨ ring.entry = .absent ∧ ring.filed = .key key

/-- The ring with its keychain asked and its key file readable finds the key. -/
theorem lookup_of_opens {ring : OsKeyring} {key : MasterKey} (opens : ring.Opens key)
    {surroundings : Surroundings} (answers : surroundings.locked = none)
    (readable : surroundings.unreadable = none) :
    (ring.lookup surroundings).1 = .ok (.found key) := by
  cases opens with
  | inl entry => simp [lookup, osLoad, answers, entry, Stored.load]
  | inr filed =>
    obtain ⟨entry, contents⟩ := filed
    cases file : ring.file with
    | none => simp [OsKeyring.filed, file] at contents
    | some keyFile =>
      have holds : keyFile.contents = .key key := by simpa [OsKeyring.filed, file] using contents
      simp [lookup, osLoad, answers, entry, Stored.load, fileOr, inFile, file, KeyFile.load,
        readable, holds]

theorem Opens.unique {ring : OsKeyring} {first second : MasterKey} (one : ring.Opens first)
    (other : ring.Opens second) : first = second := by
  cases one with
  | inl entry =>
    cases other with
    | inl again =>
      rw [entry] at again
      exact Stored.key.inj again
    | inr again =>
      rw [entry] at again
      exact absurd again.1 (by simp)
  | inr filed =>
    cases other with
    | inl again =>
      rw [filed.1] at again
      exact absurd again (by simp)
    | inr again =>
      rw [filed.2] at again
      exact Stored.key.inj again.2

theorem fileOr_opens {ring : OsKeyring} (surroundings : Surroundings) (otherwise : KeyLookup)
    (key : MasterKey) : (ring.fileOr surroundings otherwise).2.Opens key ↔ ring.Opens key := by
  unfold fileOr
  split <;> rfl

/-- Looking a key up changes nothing about which key is there. -/
theorem lookup_opens {ring : OsKeyring} (surroundings : Surroundings) (key : MasterKey) :
    (ring.lookup surroundings).2.Opens key ↔ ring.Opens key := by
  unfold lookup
  split
  · rfl
  · exact fileOr_opens ..
  · rfl
  · exact fileOr_opens ..

theorem fileOr_found {ring : OsKeyring} {surroundings : Surroundings} {otherwise : KeyLookup}
    {key : MasterKey} (not_found : otherwise ≠ .found key)
    (found : (ring.fileOr surroundings otherwise).1 = .ok (.found key)) :
    ring.filed = .key key := by
  unfold fileOr inFile KeyFile.load at found
  unfold filed
  cases file : ring.file with
  | none =>
    simp only [file, Except.ok.injEq] at found
    exact absurd found not_found
  | some keyFile =>
    cases unreadable : surroundings.unreadable with
    | some error => simp [file, unreadable] at found
    | none =>
      cases contents : keyFile.contents with
      | absent =>
        simp only [file, unreadable, contents, Stored.load, Except.ok.injEq] at found
        exact absurd found not_found
      | corrupt error => simp [file, unreadable, contents, Stored.load] at found
      | key held =>
        simp only [file, unreadable, contents, Stored.load, Except.ok.injEq,
          KeyLookup.found.injEq] at found
        show keyFile.contents = _
        rw [contents, found]

/-- A key is found in the keychain, or in the file where the keychain has none or is locked. -/
theorem lookup_found {ring : OsKeyring} {surroundings : Surroundings} {key : MasterKey}
    (found : (ring.lookup surroundings).1 = .ok (.found key)) :
    ring.Opens key ∨ surroundings.locked.isSome = true ∧ ring.filed = .key key := by
  unfold lookup osLoad at found
  cases locked : surroundings.locked with
  | some reason =>
    simp only [locked] at found
    exact .inr ⟨rfl, fileOr_found (by simp) found⟩
  | none =>
    left
    cases entry : ring.entry with
    | absent =>
      simp only [locked, entry, Stored.load] at found
      exact .inr ⟨entry, fileOr_found (by simp) found⟩
    | key held =>
      simp only [locked, entry, Stored.load, Except.ok.injEq, KeyLookup.found.injEq] at found
      rw [← found]
      exact .inl entry
    | corrupt error => simp [locked, entry, Stored.load] at found

/-- A created key is the one to be found, unless it went to the file of a locked keychain
that holds an entry. -/
theorem create_opens {ring : OsKeyring} {surroundings : Surroundings} {key : MasterKey}
    (created : (ring.create surroundings).1 = .ok key)
    (no_entry : surroundings.locked.isSome = true → ring.entry = .absent) :
    (ring.create surroundings).2.Opens key := by
  unfold create at created ⊢
  cases locked : surroundings.locked with
  | none =>
    simp only [locked, Except.ok.injEq] at created
    rw [created]
    exact .inl rfl
  | some reason =>
    have absent := no_entry (by rw [locked]; rfl)
    cases file : ring.file with
    | none => simp [locked, file] at created
    | some keyFile =>
      cases write : keyFile.store surroundings.generated surroundings with
      | mk outcome next =>
        cases outcome with
        | error error => simp [locked, file, write] at created
        | ok stored =>
          simp only [locked, file, write, Except.ok.injEq] at created ⊢
          rw [← created]
          exact .inr ⟨absent, KeyFile.store_ok write⟩

end OsKeyring

/-- Where the local store keeps sealed secrets. -/
inductive Place where
  | connections
  /-- The setting `ai_key`. -/
  | aiKey
  | workflows
  /-- The settings named `ai_key:` and a profile of the assistant. -/
  | profiles
deriving DecidableEq

/-- The keys under which the secrets of the local store are sealed. -/
abbrev SealedSecrets := Place → List MasterKey

namespace SealedSecrets

def none : SealedSecrets := fun _ => []

def sealedSecretCount (secrets : SealedSecrets) : Nat :=
  min ((secrets .connections).length + (secrets .aiKey).length + (secrets .workflows).length)
    4294967295

/-- The tables that clearing goes through, in its order. -/
def cleared : List Place := [.connections, .aiKey, .workflows]

/-- Clearing, stopped after the first few tables when one of them fails. -/
def clearSealedSecrets (secrets : SealedSecrets) (tables : Nat) : SealedSecrets := fun place =>
  if place ∈ cleared.take tables then [] else secrets place

def put (secrets : SealedSecrets) (key : MasterKey) (place : Place) : SealedSecrets :=
  Function.update secrets place (key :: secrets place)

def drop (secrets : SealedSecrets) (place : Place) (index : Nat) : SealedSecrets :=
  Function.update secrets place ((secrets place).eraseIdx index)

/-- Nothing is sealed, whether the count knows of it or not. -/
def Empty (secrets : SealedSecrets) : Prop :=
  secrets .connections = [] ∧ secrets .aiKey = [] ∧ secrets .workflows = [] ∧
    secrets .profiles = []

instance (secrets : SealedSecrets) : Decidable secrets.Empty := by
  unfold Empty
  infer_instance

end SealedSecrets

end DbFree.MasterKeys
