import DbFree.F64

namespace DbFree

/-- The errors of the modelled operations (error.rs). -/
inductive AppError where
  | readOnly (message : Text)
  | destructiveConfirmationRequired (message : Text) (statements : List Text)
  | invalidInput (message : Text)
  | notFound (message : Text)
  | notConnected (message : Text)
  | timeout (message : Text)
  | cancelled (message : Text)
  /-- A failure the database reported: where in the statement, and its follow-up lines. -/
  | driver (message : Text) (position : Option Nat) (hint detail : Option Text)
  | store (message : Text)
  | crypto (message : Text)
  | keyring (message : Text)
  | internal (message : Text)
deriving DecidableEq

def AppError.message : AppError → Text
  | .readOnly message | .destructiveConfirmationRequired message _ | .invalidInput message
  | .notFound message | .notConnected message | .timeout message | .cancelled message
  | .driver message _ _ _ | .store message | .crypto message | .keyring message
  | .internal message => message

/-- What a step that succeeds is made of. -/
theorem bind_ok {ε α β : Type} {first : Except ε α} {next : α → Except ε β} {b : β}
    (done : (first >>= next) = .ok b) : ∃ a, first = .ok a ∧ next a = .ok b := by
  cases first with
  | error error => cases done
  | ok a => exact ⟨a, rfl, done⟩

end DbFree
