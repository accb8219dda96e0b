import DbFree.Memcached

/- Commands that take turns at the connection to a server that answers, or fails to: how
often they reach it, and whose reply they get (integrations/memcached.rs). -/
namespace DbFree.Memcached

open Interleaving Texts LineReader

/-- The bytes of a whole reply of a shape, and its lines as the client gives them. -/
inductive IsReply (lossy : List UInt8 → Text) : ReplyShape → List UInt8 → List Text → Prop
  | none : IsReply lossy .none [] []
  | last {shape : ReplyShape} {line : List UInt8} (speaks : shape ≠ .none)
      (single : 0x0A ∉ line) (plain : startsWith (lineText lossy line) "VALUE " = false)
      (ends : shape = .untilEnd → isTerminalLine (lineText lossy line) = true) :
      IsReply lossy shape (line ++ [0x0A]) [lineText lossy line]
  | more {line rest : List UInt8} {lines : List Text} (single : 0x0A ∉ line)
      (plain : startsWith (lineText lossy line) "VALUE " = false)
      (goesOn : isTerminalLine (lineText lossy line) = false)
      (later : IsReply lossy .untilEnd rest lines) :
      IsReply lossy .untilEnd (line ++ 0x0A :: rest) (lineText lossy line :: lines)
  | value {shape : ReplyShape} {line data rest : List UInt8} {lines : List Text}
      (speaks : shape ≠ .none) (single : 0x0A ∉ line)
      (header : startsWith (lineText lossy line) "VALUE " = true)
      (size : data.length = announced (lineText lossy line) + 2)
      (later : IsReply lossy shape rest lines) :
      IsReply lossy shape (line ++ 0x0A :: (data ++ rest))
        (lineText lossy line :: lossy (data.take (announced (lineText lossy line))) :: lines)

/-- No proper beginning of the reply is a whole reply of the shape. -/
def EndsWhole (lossy : List UInt8 → Text) (shape : ReplyShape) (reply : List UInt8) : Prop :=
  ∀ front rest lines, reply = front ++ rest → IsReply lossy shape front lines → rest = []

section Replies

variable {lossy : List UInt8 → Text}

/-- The first line feed of some bytes parts them. -/
theorem feed_found {held : List UInt8} {i : Nat} (found : held.findIdx? (· = 0x0A) = some i) :
    i < held.length ∧ 0x0A ∉ held.take i ∧ held = held.take i ++ 0x0A :: held.drop (i + 1) := by
  obtain ⟨inside, feed, before⟩ := List.findIdx?_eq_some_iff_getElem.mp found
  refine ⟨inside, ?_, ?_⟩
  · intro member
    obtain ⟨j, below, same⟩ := List.mem_take_iff_getElem.mp member
    have earlier := before j (by omega)
    rw [same] at earlier
    exact earlier (decide_eq_true rfl)
  · rw [← of_decide_eq_true feed, List.getElem_cons_drop, List.take_append_drop]

theorem find_feed {line : List UInt8} (single : 0x0A ∉ line) (rest : List UInt8) :
    (line ++ 0x0A :: rest).findIdx? (· = 0x0A) = some line.length := by
  rw [List.findIdx?_eq_some_iff_getElem]
  refine ⟨by simp, by simp, ?_⟩
  intro j below feed
  rw [List.getElem_append_left below] at feed
  exact single (of_decide_eq_true feed ▸ List.getElem_mem below)

variable (lossy) in
/-- What some bytes hold behind the first whole reply of a shape. -/
def afterReply (shape : ReplyShape) : Nat → List UInt8 → Option (List UInt8)
  | 0, _ => none
  | fuel + 1, bytes =>
    match bytes.findIdx? (· = 0x0A) with
    | none => none
    | some i =>
      let line := lineText lossy (bytes.take i)
      let rest := bytes.drop (i + 1)
      if startsWith line "VALUE " then
        if announced line + 2 ≤ rest.length then
          afterReply shape fuel (rest.drop (announced line + 2))
        else none
      else if shape = .untilEnd ∧ isTerminalLine line = false then afterReply shape fuel rest
      else some rest

theorem afterReply_some {shape : ReplyShape} (speaks : shape ≠ .none) {fuel : Nat}
    {bytes rest : List UInt8} (parsed : afterReply lossy shape fuel bytes = some rest) :
    ∃ front lines, bytes = front ++ rest ∧ IsReply lossy shape front lines := by
  induction fuel generalizing bytes with
  | zero => cases parsed
  | succ fuel hypothesis =>
    rw [afterReply] at parsed
    split at parsed
    · cases parsed
    · rename_i i found
      obtain ⟨-, single, parts⟩ := feed_found found
      dsimp only at parsed
      split at parsed
      · rename_i header
        split at parsed
        · rename_i enough
          obtain ⟨front, lines, rest_eq, reply⟩ := hypothesis parsed
          have data := List.take_append_drop (announced (lineText lossy (bytes.take i)) + 2)
            (bytes.drop (i + 1))
          refine ⟨_, _, ?_, IsReply.value speaks single header (List.length_take_of_le enough) reply⟩
          rw [List.append_assoc, List.cons_append, List.append_assoc, ← rest_eq, data]
          exact parts
        · cases parsed
      · rename_i plain
        have plain := Bool.eq_false_iff.mpr plain
        split at parsed
        · rename_i continues
          obtain ⟨rfl, goesOn⟩ := continues
          obtain ⟨front, lines, rest_eq, reply⟩ := hypothesis parsed
          refine ⟨_, _, ?_, IsReply.more single plain goesOn reply⟩
          rw [List.append_assoc, List.cons_append, ← rest_eq]
          exact parts
        · rename_i ends
          cases parsed
          refine ⟨_, _, ?_, IsReply.last speaks single plain ?_⟩
          · rw [List.append_assoc]
            exact parts
          · intro until_end
            by_contra goesOn
            exact ends ⟨until_end, Bool.eq_false_iff.mpr goesOn⟩

theorem afterReply_reply {shape : ReplyShape} {front : List UInt8} {lines : List Text}
    (reply : IsReply lossy shape front lines) (speaks : shape ≠ .none) (rest : List UInt8) :
    ∀ fuel, front.length < fuel → afterReply lossy shape fuel (front ++ rest) = some rest := by
  induction reply with
  | none => exact absurd rfl speaks
  | @last shape line _ single plain ends =>
    intro fuel enough
    cases fuel with
    | zero => cases enough
    | succ fuel =>
      rw [afterReply, List.append_assoc, List.singleton_append, find_feed single]
      dsimp only
      rw [List.take_left, plain, if_neg Bool.false_ne_true, if_neg]
      · simp
      · rintro ⟨until_end, goesOn⟩
        rw [ends until_end] at goesOn
        cases goesOn
  | @more line later lines single plain goesOn _ hypothesis =>
    intro fuel enough
    cases fuel with
    | zero => cases enough
    | succ fuel =>
      have shorter : later.length < fuel := by
        rw [List.length_append, List.length_cons] at enough
        omega
      rw [afterReply, List.append_assoc, List.cons_append, find_feed single]
      dsimp only
      rw [List.take_left, plain, if_neg Bool.false_ne_true, if_pos ⟨rfl, goesOn⟩]
      simpa using hypothesis speaks fuel shorter
  | @value shape line data later lines _ single header size _ hypothesis =>
    intro fuel enough
    cases fuel with
    | zero => cases enough
    | succ fuel =>
      have shorter : later.length < fuel := by
        rw [List.length_append, List.length_cons, List.length_append] at enough
        omega
      rw [afterReply, List.append_assoc, List.cons_append, List.append_assoc, find_feed single]
      dsimp only
      rw [List.take_left, if_pos header]
      have rest_eq : (line ++ 0x0A :: (data ++ (later ++ rest))).drop (line.length + 1) =
          data ++ (later ++ rest) := by simp
      rw [rest_eq, ← size, if_pos (by simp), List.drop_left]
      exact hypothesis speaks fuel shorter

theorem endsWhole_iff (shape : ReplyShape) (reply : List UInt8) : EndsWhole lossy shape reply ↔
    if shape = .none then reply = []
    else ∀ rest ∈ afterReply lossy shape (reply.length + 1) reply, rest = [] := by
  by_cases speaks : shape = .none
  · rw [if_pos speaks, speaks]
    constructor
    · exact fun whole => whole [] reply [] rfl .none
    · rintro rfl front rest lines same -
      exact (List.append_eq_nil_iff.mp same.symm).2
  · rw [if_neg speaks]
    constructor
    · intro whole rest parsed
      obtain ⟨front, lines, same, read⟩ := afterReply_some speaks parsed
      exact whole front rest lines same read
    · intro whole front rest lines same read
      refine whole rest ?_
      rw [same]
      refine afterReply_reply read speaks rest _ ?_
      rw [List.length_append]
      omega

instance (shape : ReplyShape) (reply : List UInt8) : Decidable (EndsWhole lossy shape reply) :=
  decidable_of_iff' _ (endsWhole_iff shape reply)

end Replies

section Reading

variable {lossy : List UInt8 → Text}

/-- The buffer is read up to a place inside of it. -/
def LineReader.Sound (reader : LineReader) : Prop := reader.pos ≤ reader.buf.length

theorem fresh_unread (reader : LineReader) : reader.fresh.unread = reader.unread := by
  rw [fresh]
  split
  · rename_i read
    rw [unread, unread, read.2, List.drop_length]
    rfl
  · rfl

theorem fresh_sound {reader : LineReader} (sound : reader.Sound) : reader.fresh.Sound := by
  rw [fresh]
  split
  · exact Nat.le_refl 0
  · exact sound

theorem receive_unread {reader : LineReader} (sound : reader.Sound) (count : Nat) :
    (reader.receive count).unread = reader.unread := by
  rw [unread, receive]
  dsimp only
  rw [List.drop_append_of_le_length sound, List.append_assoc, List.take_append_drop]
  rfl

theorem receive_sound {reader : LineReader} (sound : reader.Sound) (count : Nat) :
    (reader.receive count).Sound := by
  rw [Sound, receive]
  dsimp only
  rw [List.length_append]
  exact Nat.le_add_right_of_le sound

/-- A read takes nothing away from what is still to be read. -/
theorem fill_ok {reader filled : LineReader} (sound : reader.Sound) {read : Read}
    (fills : reader.fill read = some (.ok filled)) :
    filled.Sound ∧ filled.unread = reader.unread := by
  cases read with
  | bytes count =>
    rw [fill] at fills
    split at fills
    · dsimp only at fills
      split at fills
      · cases fills
      · cases fills
        exact ⟨receive_sound (fresh_sound sound) count,
          (receive_unread (fresh_sound sound) count).trans (fresh_unread reader)⟩
    · cases fills
  | timedOut => cases fills
  | failed error => cases fills
  | closed => cases fills

theorem held_line {reader : LineReader} {i : Nat}
    (found : (reader.buf.drop reader.pos).findIdx? (· = 0x0A) = some i) :
    ({ reader with pos := reader.pos + i + 1 } : LineReader).Sound ∧
      ∃ line, 0x0A ∉ line ∧ (reader.buf.drop reader.pos).take i = line ∧
        reader.unread = line ++ 0x0A ::
          ({ reader with pos := reader.pos + i + 1 } : LineReader).unread := by
  obtain ⟨inside, single, parts⟩ := feed_found found
  refine ⟨?_, _, single, rfl, ?_⟩
  · rw [List.length_drop] at inside
    show reader.pos + i + 1 ≤ reader.buf.length
    omega
  · rw [unread, unread]
    dsimp only
    rw [Nat.add_assoc, ← List.drop_drop, ← List.cons_append, ← List.append_assoc, ← parts]

theorem readLine_ok {reads left : List Read} {reader after : LineReader} {text : Text}
    (sound : reader.Sound)
    (heard : reader.readLine lossy reads = some (.ok (text, after, left))) :
    after.Sound ∧ ∃ line, 0x0A ∉ line ∧ text = lineText lossy line ∧
      reader.unread = line ++ 0x0A :: after.unread := by
  induction reads generalizing reader with
  | nil =>
    rw [readLine] at heard
    split at heard
    · rename_i i found
      obtain ⟨sound, line, single, taken, parts⟩ := held_line found
      rw [taken] at heard
      cases heard
      exact ⟨sound, line, single, rfl, parts⟩
    · cases heard
  | cons read rest hypothesis =>
    rw [readLine] at heard
    split at heard
    · rename_i i found
      obtain ⟨sound, line, single, taken, parts⟩ := held_line found
      rw [taken] at heard
      cases heard
      exact ⟨sound, line, single, rfl, parts⟩
    · split at heard
      · rename_i filled fills
        obtain ⟨filled_sound, same⟩ := fill_ok sound fills
        rw [← same]
        exact hypothesis filled_sound heard
      · cases heard
      · cases heard

theorem held_bytes {reader : LineReader} {n : Nat} (sound : reader.Sound)
    (enough : n ≤ (reader.buf.drop reader.pos).length) :
    ({ reader with pos := reader.pos + n } : LineReader).Sound ∧
      ((reader.buf.drop reader.pos).take n).length = n ∧
      reader.unread = (reader.buf.drop reader.pos).take n ++
        ({ reader with pos := reader.pos + n } : LineReader).unread := by
  refine ⟨?_, List.length_take_of_le enough, ?_⟩
  · rw [List.length_drop] at enough
    have sound : reader.pos ≤ reader.buf.length := sound
    show reader.pos + n ≤ reader.buf.length
    omega
  · rw [unread, unread]
    dsimp only
    rw [← List.drop_drop, ← List.append_assoc, List.take_append_drop]

theorem readExact_ok {n : Nat} {reads left : List Read} {reader after : LineReader}
    {data : List UInt8} (sound : reader.Sound)
    (heard : reader.readExact n reads = some (.ok (data, after, left))) :
    after.Sound ∧ data.length = n ∧ reader.unread = data ++ after.unread := by
  induction reads generalizing reader with
  | nil =>
    rw [readExact] at heard
    split at heard
    · cases heard
      exact held_bytes sound ‹_›
    · cases heard
  | cons read rest hypothesis =>
    rw [readExact] at heard
    split at heard
    · cases heard
      exact held_bytes sound ‹_›
    · split at heard
      · rename_i filled fills
        obtain ⟨filled_sound, same⟩ := fill_ok sound fills
        rw [← same]
        exact hypothesis filled_sound heard
      · cases heard
      · cases heard

/-- What is read is a whole reply of the shape, at the front of the bytes of the server. -/
theorem readLines_ok {shape : ReplyShape} (speaks : shape ≠ .none) {fuel : Nat}
    {reads left : List Read} {reader after : LineReader} {lines : List Text}
    (sound : reader.Sound)
    (heard : readLines lossy shape fuel reads reader = some (.ok (lines, after, left))) :
    after.Sound ∧ ∃ front, reader.unread = front ++ after.unread ∧
      IsReply lossy shape front lines := by
  induction fuel generalizing reads reader lines with
  | zero => cases heard
  | succ fuel hypothesis =>
    rw [readLines] at heard
    split at heard
    · rename_i text behind reads' line_heard
      obtain ⟨behind_sound, line, single, rfl, parts⟩ := readLine_ok sound line_heard
      split at heard
      · rename_i header
        split at heard
        · rename_i data further reads'' data_heard
          obtain ⟨further_sound, size, data_parts⟩ := readExact_ok behind_sound data_heard
          split at heard
          · rename_i others last_reader last_reads later_heard
            cases heard
            obtain ⟨after_sound, front, front_parts, whole⟩ := hypothesis further_sound later_heard
            refine ⟨after_sound, _, ?_, IsReply.value speaks single header size whole⟩
            rw [parts, data_parts, front_parts]
            simp
          · rename_i ends
            exact absurd heard (ends _ _ _)
        · cases heard
        · cases heard
      · rename_i plain
        have plain := Bool.eq_false_iff.mpr plain
        split at heard
        · rename_i continues
          obtain ⟨rfl, goesOn⟩ := continues
          split at heard
          · rename_i others last_reader last_reads later_heard
            cases heard
            obtain ⟨after_sound, front, front_parts, whole⟩ := hypothesis behind_sound later_heard
            refine ⟨after_sound, _, ?_, IsReply.more single plain goesOn whole⟩
            rw [parts, front_parts]
            simp
          · rename_i ends
            exact absurd heard (ends _ _ _)
        · rename_i ends
          cases heard
          refine ⟨behind_sound, line ++ [0x0A], ?_, IsReply.last speaks single plain ?_⟩
          · rw [parts, List.append_assoc]
            rfl
          · intro until_end
            by_contra goesOn
            exact ends ⟨until_end, Bool.eq_false_iff.mpr goesOn⟩
    · cases heard
    · cases heard

theorem readReply_ok {shape : ReplyShape} {incoming rest : List UInt8} {reads : List Read}
    {lines : List Text} (heard : readReply lossy shape incoming reads = some (.ok (lines, rest))) :
    ∃ front dropped, incoming = front ++ dropped ++ rest ∧ IsReply lossy shape front lines := by
  rw [readReply] at heard
  split at heard
  · rename_i silent
    cases heard
    rw [silent]
    exact ⟨[], [], rfl, .none⟩
  · rename_i speaks
    split at heard
    · rename_i lines' reader left lines_heard
      cases heard
      obtain ⟨-, front, parts, whole⟩ := readLines_ok speaks (Nat.zero_le _) lines_heard
      refine ⟨front, reader.buf.drop reader.pos, ?_, whole⟩
      rw [List.append_assoc]
      exact parts
    · cases heard
    · cases heard

/-- Nothing is left that fails, and no more bytes than the buffer may hold. -/
structure Quiet (reads : List Read) (reader : LineReader) : Prop where
  bytes : ∀ read ∈ reads, read.isBytes = true
  fits : reader.buf.length + reader.incoming.length ≤ MAX_RESPONSE_BYTES

/-- Reading did not fail, and what is left cannot fail either. -/
def Calm {α : Type} : Heard α → Prop
  | none => True
  | some (.error _) => False
  | some (.ok (_, reader, reads)) => Quiet reads reader

theorem fresh_length (reader : LineReader) :
    reader.fresh.buf.length ≤ reader.buf.length ∧ reader.fresh.incoming = reader.incoming := by
  rw [fresh]
  split
  · exact ⟨Nat.zero_le _, rfl⟩
  · exact ⟨Nat.le_refl _, rfl⟩

theorem fill_quiet {read : Read} {rest : List Read} {reader : LineReader}
    (quiet : Quiet (read :: rest) reader) :
    reader.fill read = none ∨ ∃ filled, reader.fill read = some (.ok filled) ∧ Quiet rest filled := by
  have later : ∀ other ∈ rest, other.isBytes = true :=
    fun other member => quiet.bytes other (List.mem_cons_of_mem _ member)
  have now := quiet.bytes read List.mem_cons_self
  cases read with
  | bytes count =>
    rw [fill]
    split
    · rename_i gives
      obtain ⟨length, incoming⟩ := fresh_length reader
      have fits := quiet.fits
      have size : (reader.fresh.receive count).buf.length +
          (reader.fresh.receive count).incoming.length ≤ MAX_RESPONSE_BYTES := by
        rw [receive, incoming]
        simp only [List.length_append, List.length_take, List.length_drop]
        omega
      rw [if_neg (by omega)]
      exact .inr ⟨_, rfl, later, size⟩
    · exact .inl rfl
  | timedOut => cases now
  | failed error => cases now
  | closed => cases now

theorem readLine_calm {reads : List Read} {reader : LineReader} (quiet : Quiet reads reader) :
    Calm (reader.readLine lossy reads) := by
  induction reads generalizing reader with
  | nil =>
    rw [readLine]
    split
    · exact ⟨quiet.bytes, quiet.fits⟩
    · trivial
  | cons read rest hypothesis =>
    rw [readLine]
    split
    · exact ⟨quiet.bytes, quiet.fits⟩
    · rcases fill_quiet quiet with stuck | ⟨filled, fills, quiet⟩
      · rw [stuck]
        trivial
      · rw [fills]
        exact hypothesis quiet

theorem readExact_calm {n : Nat} {reads : List Read} {reader : LineReader}
    (quiet : Quiet reads reader) : Calm (reader.readExact n reads) := by
  induction reads generalizing reader with
  | nil =>
    rw [readExact]
    split
    · exact ⟨quiet.bytes, quiet.fits⟩
    · trivial
  | cons read rest hypothesis =>
    rw [readExact]
    split
    · exact ⟨quiet.bytes, quiet.fits⟩
    · rcases fill_quiet quiet with stuck | ⟨filled, fills, quiet⟩
      · rw [stuck]
        trivial
      · rw [fills]
        exact hypothesis quiet

theorem readLines_calm {shape : ReplyShape} {fuel : Nat} {reads : List Read} {reader : LineReader}
    (quiet : Quiet reads reader) : Calm (readLines lossy shape fuel reads reader) := by
  induction fuel generalizing reads reader with
  | zero => trivial
  | succ fuel hypothesis =>
    rw [readLines]
    have line : Calm (reader.readLine lossy reads) := readLine_calm quiet
    split
    · rename_i text behind reads' heard
      rw [heard] at line
      split
      · have data := readExact_calm (n := announced text + 2) line
        split
        · rename_i bytes further reads'' data_heard
          rw [data_heard] at data
          have others := hypothesis data
          split
          · rename_i lines last_reader last_reads later
            rw [later] at others
            exact others
          · exact others
        · rename_i error data_heard
          rw [data_heard] at data
          exact data
        · trivial
      · split
        · have others := hypothesis line
          split
          · rename_i lines last_reader last_reads later
            rw [later] at others
            exact others
          · exact others
        · exact line
    · rename_i error heard
      rw [heard] at line
      exact line
    · trivial

theorem readReply_calm {shape : ReplyShape} {incoming : List UInt8} {reads : List Read}
    (bytes : ∀ read ∈ reads, read.isBytes = true) (fits : incoming.length ≤ MAX_RESPONSE_BYTES)
    (error : AppError) : readReply lossy shape incoming reads ≠ some (.error error) := by
  rw [readReply]
  split
  · intro failed
    cases failed
  · have quiet : Quiet reads ⟨[], 0, incoming⟩ := ⟨bytes, by simpa using fits⟩
    have calm : Calm (readLines lossy shape (incoming.length + 1) reads ⟨[], 0, incoming⟩) :=
      readLines_calm quiet
    intro failed
    split at failed
    · cases failed
    · rename_i heard
      rw [heard] at calm
      exact calm
    · cases failed

end Reading

section Runs

/-- The lines that a command has got. -/
structure Answered where
  id : Nat
  command : Text
  lines : List Text
deriving DecidableEq

/-- The shared connection, the servers behind it, and what has happened so far. -/
structure Shared where
  /-- What the server has sent on the connection and the client has not received. -/
  stream : Option (List UInt8)
  /-- How many commands there were; a command is known by its number. -/
  count : Nat
  /-- The copies that reached a server. -/
  received : List (Nat × Text)
  /-- What a server sent for each copy. -/
  replies : List (Nat × List UInt8)
  answers : List Answered
deriving DecidableEq

/-- What happens to the first copy of a command, and to the second. -/
structure Surroundings where
  first : Attempt
  second : Attempt

namespace Shared

/-- Connected, with nothing sent yet. -/
def start : Shared := ⟨some [], 0, [], [], []⟩

def copied (shared : Shared) (id : Nat) (line : Text) (attempt : Attempt) : Shared :=
  { shared with
    received := shared.received ++ if attempt.received then [(id, line)] else []
    replies := shared.replies ++ [(id, attempt.sent)] }

def answered (shared : Shared) (id : Nat) (line : Text) (lines : List Text) (rest : List UInt8) :
    Shared :=
  { shared with stream := some rest, answers := shared.answers ++ [⟨id, line, lines⟩] }

variable (lossy : List UInt8 → Text)

/-- The second copy, on a new connection. -/
def resend (shared : Shared) (id : Nat) (line : Text) (attempt : Attempt) :
    Option (Except AppError (List Text) × Shared) :=
  match attempt.refused with
  | some error => some (.error error, { shared with stream := none })
  | none =>
    let copied := shared.copied id line attempt
    match roundtrip lossy [] line attempt with
    | some (.ok (lines, rest)) => some (.ok lines, copied.answered id line lines rest)
    | some (.error error) => some (.error error, { copied with stream := none })
    | none => none

/-- The first copy, on the connection there is or a new one, and the second where it fails. -/
def exchange (shared : Shared) (line : Text) (around : Surroundings) :
    Option (Except AppError (List Text) × Shared) :=
  let id := shared.count
  let begun := { shared with count := id + 1 }
  match shared.stream, around.first.refused with
  | none, some error => some (.error error, begun)
  | stream, _ =>
    let copied := begun.copied id line around.first
    match roundtrip lossy (stream.getD []) line around.first with
    | some (.ok (lines, rest)) => some (.ok lines, copied.answered id line lines rest)
    | some (.error _) => copied.resend lossy id line around.second
    | none => none

def exec (_ : Nat) (shared : Shared) :
    (op : MemcachedOp) → Surroundings → Option (op.Answer × Shared)
  | .command line _, around => shared.exchange lossy line around

end Shared

/-- A command that does something else when it is applied twice. -/
def nonIdempotent (line : Text) : Bool :=
  isIn (verbOf line) ["incr", "decr", "append", "prepend", "add", "cas"]

variable (lossy : List UInt8 → Text)

/-- Commands that may not be repeated reach a server once at most, and the lines of a
command are those of the server's reply to it. -/
structure OnceAndOwn (shared : Shared) : Prop where
  once : ∀ id line, nonIdempotent line = true → shared.received.count (id, line) ≤ 1
  own : ∀ answer ∈ shared.answers, ∃ reply, (answer.id, reply) ∈ shared.replies ∧
    IsReply lossy (replyShape answer.command) reply answer.lines

/-- Nothing goes wrong on a copy from its write to the end of its reply. -/
structure Attempt.Clean (attempt : Attempt) : Prop where
  written : attempt.writeError = none
  reads : ∀ read ∈ attempt.reads, read.isBytes = true
  fits : attempt.reply.length ≤ MAX_RESPONSE_BYTES

/-- No reply goes on behind what its command's shape takes for the whole, and nothing goes
wrong on the first copy of a command that may not be repeated, where both copies arrive. -/
def Fits (_ : Nat) (_ : Shared) (op : MemcachedOp) (around : Surroundings) : Prop :=
  match op with
  | .command line _ =>
    EndsWhole lossy (replyShape line) around.first.sent ∧
      EndsWhole lossy (replyShape line) around.second.sent ∧
      (nonIdempotent line = true → around.first.received = true → around.second.refused = none →
        around.second.received = true → around.first.Clean)

theorem Attempt.clean_iff (attempt : Attempt) : attempt.Clean ↔ attempt.writeError = none ∧
    (∀ read ∈ attempt.reads, read.isBytes = true) ∧ attempt.reply.length ≤ MAX_RESPONSE_BYTES :=
  ⟨fun clean => ⟨clean.written, clean.reads, clean.fits⟩,
    fun ⟨written, reads, fits⟩ => ⟨written, reads, fits⟩⟩

instance (attempt : Attempt) : Decidable attempt.Clean := decidable_of_iff' _ attempt.clean_iff

instance (thread : Nat) (shared : Shared) : (op : MemcachedOp) → (around : Surroundings) →
    Decidable (Fits lossy thread shared op around)
  | .command _ _, _ => inferInstanceAs (Decidable (_ ∧ _ ∧ (_ = true → _ = true → _ = none → _)))

structure Shared.Kept (shared : Shared) : Prop extends OnceAndOwn lossy shared where
  /-- Nothing is on its way between two commands. -/
  still : ∀ incoming, shared.stream = some incoming → incoming = []
  past : ∀ id line, (id, line) ∈ shared.received → id < shared.count

variable {lossy} {shared : Shared} {line : Text}

theorem kept_start : Shared.start.Kept lossy where
  once := by simp [Shared.start]
  own := by simp [Shared.start]
  still := fun _ same => (Option.some.inj same).symm
  past := by simp [Shared.start]

/-- A command whose lines are read has its own reply, and leaves nothing behind. -/
theorem roundtrip_ok {incoming rest : List UInt8} {attempt : Attempt} {lines : List Text}
    (still : incoming = []) (whole : EndsWhole lossy (replyShape line) attempt.sent)
    (heard : roundtrip lossy incoming line attempt = some (.ok (lines, rest))) :
    rest = [] ∧ IsReply lossy (replyShape line) attempt.sent lines := by
  rw [roundtrip] at heard
  split at heard
  · cases heard
  · obtain ⟨front, dropped, parts, reply⟩ := readReply_ok heard
    rw [still, List.nil_append, List.append_assoc] at parts
    have ends := whole front _ lines parts reply
    rw [ends, List.append_nil] at parts
    rw [parts]
    exact ⟨(List.append_eq_nil_iff.mp ends).2, reply⟩

theorem roundtrip_clean {incoming : List UInt8} {attempt : Attempt} (still : incoming = [])
    (clean : attempt.Clean) (error : AppError) :
    roundtrip lossy incoming line attempt ≠ some (.error error) := by
  rw [roundtrip, clean.written, still, List.nil_append]
  refine readReply_calm clean.reads ?_ error
  rw [Attempt.sent]
  split
  · exact clean.fits
  · exact Nat.zero_le _

/-- The copies of one more command. -/
theorem once_append (kept : shared.Kept lossy) {copies : List (Nat × Text)}
    (own : ∀ copy ∈ copies, copy = (shared.count, line))
    (single : nonIdempotent line = true → copies.length ≤ 1) (id : Nat) (other : Text)
    (careful : nonIdempotent other = true) :
    (shared.received ++ copies).count (id, other) ≤ 1 := by
  rw [List.count_append]
  by_cases now : (id, other) ∈ copies
  · have same := own _ now
    have fresh : (id, other) ∉ shared.received := by
      intro member
      have earlier := kept.past id other member
      rw [(Prod.mk.inj same).1] at earlier
      exact Nat.lt_irrefl _ earlier
    have few := single (by rw [← (Prod.mk.inj same).2]; exact careful)
    rw [List.count_eq_zero_of_not_mem fresh, Nat.zero_add]
    exact List.count_le_length.trans few
  · rw [List.count_eq_zero_of_not_mem now]
    exact kept.once id other careful

/-- The copies of a command, where its lines are not read. -/
theorem kept_copies (kept : shared.Kept lossy) {copies : List (Nat × Text)}
    {replies : List (Nat × List UInt8)} (own : ∀ copy ∈ copies, copy = (shared.count, line))
    (single : nonIdempotent line = true → copies.length ≤ 1) :
    ({ shared with
        stream := none
        count := shared.count + 1
        received := shared.received ++ copies
        replies := shared.replies ++ replies } : Shared).Kept lossy where
  once := once_append kept own single
  own := by
    intro answer member
    obtain ⟨reply, there, lines⟩ := kept.own answer member
    exact ⟨reply, List.mem_append_left _ there, lines⟩
  still := by
    intro incoming same
    cases same
  past := by
    intro id other member
    rcases List.mem_append.mp member with before | now
    · exact Nat.lt_succ_of_lt (kept.past id other before)
    · rw [(Prod.mk.inj (own _ now)).1]
      exact Nat.lt_succ_self _

/-- And where they are: the lines of the last reply. -/
theorem kept_answered (kept : shared.Kept lossy) {reply : List UInt8} {lines : List Text} {id : Nat} (there : (id, reply) ∈ shared.replies)
    (read : IsReply lossy (replyShape line) reply lines) :
    (shared.answered id line lines []).Kept lossy where
  once := kept.once
  own := by
    intro answer member
    rcases List.mem_append.mp member with before | now
    · exact kept.own answer before
    · rw [List.mem_singleton.mp now]
      exact ⟨reply, there, read⟩
  still := fun _ same => (Option.some.inj same).symm
  past := kept.past

/-- The copy that reaches the server, of those of one command. -/
def Attempt.copies (attempt : Attempt) (id : Nat) (line : Text) : List (Nat × Text) :=
  if attempt.received then [(id, line)] else []

theorem copies_own {attempt : Attempt} {id : Nat} :
    ∀ copy ∈ attempt.copies id line, copy = (id, line) := by
  intro copy member
  rw [Attempt.copies] at member
  split at member
  · exact List.mem_singleton.mp member
  · cases member

theorem copies_length (attempt : Attempt) (id : Nat) :
    (attempt.copies id line).length ≤ 1 := by
  rw [Attempt.copies]
  split
  · exact Nat.le_refl 1
  · exact Nat.zero_le 1

theorem copied_twice (first second : Attempt) :
    ((({ shared with count := shared.count + 1 } : Shared).copied shared.count line first).copied
      shared.count line second) =
      { shared with
        count := shared.count + 1
        received := shared.received ++
          (first.copies shared.count line ++ second.copies shared.count line)
        replies := shared.replies ++ [(shared.count, first.sent), (shared.count, second.sent)] } := by
  simp [Shared.copied, Attempt.copies]

/-- One command keeps the invariant, whatever becomes of its copies. -/
theorem exchange_kept (kept : shared.Kept lossy) (data : Option Text) {around : Surroundings}
    (fits : Fits lossy 0 shared (.command line data) around) {next : Shared}
    {answer : Except AppError (List Text)}
    (performed : shared.exchange lossy line around = some (answer, next)) : next.Kept lossy := by
  obtain ⟨first_whole, second_whole, careful⟩ := fits
  have still : shared.stream.getD [] = [] := by
    cases stream : shared.stream with
    | none => rfl
    | some incoming => exact kept.still incoming stream
  have own_first : ∀ copy ∈ around.first.copies shared.count line, copy = (shared.count, line) :=
    copies_own
  have one := @kept_copies _ _ _ kept _ [(shared.count, around.first.sent)] own_first
    fun _ => copies_length _ _
  rw [Shared.exchange] at performed
  split at performed
  · rename_i unconnected refused
    cases performed
    have none := @kept_copies _ _ line kept [] [] (by simp) (by simp)
    rw [List.append_nil, List.append_nil] at none
    rw [← unconnected] at none
    exact none
  · dsimp only at performed
    split at performed
    · rename_i lines rest heard
      cases performed
      obtain ⟨rfl, read⟩ := roundtrip_ok still first_whole heard
      exact kept_answered one (List.mem_append_right _ (List.mem_singleton_self _)) read
    · rename_i error failed
      rw [Shared.resend] at performed
      split at performed
      · cases performed
        exact one
      · rename_i connected
        have single : nonIdempotent line = true → (around.first.copies shared.count line ++
            around.second.copies shared.count line).length ≤ 1 := by
          intro repeats
          rw [Attempt.copies, Attempt.copies]
          split
          · rename_i arrived
            split
            · rename_i again
              -- the condition: where both copies arrive, the first has its reply
              have clean := careful repeats arrived connected again
              exact absurd failed (roundtrip_clean still clean error)
            · exact Nat.le_refl 1
          · exact copies_length around.second shared.count
        have both := @kept_copies _ _ line kept (around.first.copies shared.count line ++
          around.second.copies shared.count line)
          [(shared.count, around.first.sent), (shared.count, around.second.sent)]
          (by
            intro copy member
            rcases List.mem_append.mp member with former | latter
            · exact copies_own copy former
            · exact copies_own copy latter) single
        dsimp only at performed
        rw [copied_twice] at performed
        split at performed
        · rename_i lines rest heard
          cases performed
          obtain ⟨rfl, read⟩ := roundtrip_ok rfl second_whole heard
          exact kept_answered both (List.mem_append_right _ (by simp)) read
        · cases performed
          exact both
        · cases performed
    · cases performed

section Counter

/-- The bytes of a reply that are ASCII, as text. -/
def ascii (bytes : List UInt8) : Text := bytes.map fun byte => Char.ofNat byte.toNat

/-- The reply `6`. -/
def six : List UInt8 := [0x36, 0x0D, 0x0A]

/-- A copy that gets its reply, in the reads given. -/
def counted (reads : List Read) : Attempt := ⟨none, none, true, six, reads⟩

def unused : Attempt := ⟨none, none, false, [], []⟩

def counts (around : Surroundings) : List (Event Call Surroundings) :=
  [.call 0 (.execute false "incr visits 1".toList), .go 0 around, .go 0 around]

theorem visit_counted_twice :
    (Machine.run (step (Shared.exec ascii) program) (Interleaving.start Shared.start)
      (counts ⟨counted [.timedOut], counted [.bytes 3]⟩)).map
        (fun threads => threads.shared.received) =
      some [(0, "incr visits 1".toList), (0, "incr visits 1".toList)] := by
  decide +kernel

end Counter

end Runs

end DbFree.Memcached
