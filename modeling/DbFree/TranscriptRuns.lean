import DbFree.Machine
import DbFree.Transcript

/- The runs of one chat, and when every request they send is well formed
(services/agent/mod.rs). -/
namespace DbFree.Transcripts

open Machine

/-- Messages kept in a chat before the oldest exchanges are dropped. -/
def MAX_TRANSCRIPT : Nat := 60

def RESUME_NUDGE : Text :=
  ("Continue from where you stopped. Do not repeat tool calls you have already made.").toList

def MIN_AGENT_STEPS : Nat := 1

def MAX_AGENT_STEPS : Nat := 100

/-- What a run reads of its options: the model it resolved to, the user's message in full,
the step limit, and whether it resumes. -/
structure RunOptions where
  profileId : Text
  model : Text
  userMessage : Text
  history : List HistoryTurn
  maxSteps : Nat
  resume : Bool

structure AgentChat where
  transcript : Transcript
  via : Option Text

namespace AgentChat

def new : AgentChat := ⟨Transcript.new, none⟩

def keyOf (options : RunOptions) : Text := options.profileId ++ '|' :: options.model

/-- A different model than the last one is about to continue the conversation. -/
def switches (chat : AgentChat) (options : RunOptions) : Bool :=
  chat.via.any fun previous => previous != keyOf options

/-- What a run keeps of the transcript. -/
def kept (chat : AgentChat) (options : RunOptions) : Transcript :=
  (if chat.switches options then chat.transcript.reset else chat.transcript).trimTo MAX_TRANSCRIPT

/-- The chat as a run is about to ask its model for the first time. -/
def begin (chat : AgentChat) (options : RunOptions) : AgentChat :=
  let kept := chat.kept options
  let replayed := if kept.messages.isEmpty then kept.replay options.history else kept
  let opened :=
    if options.resume then replayed.resume RESUME_NUDGE else replayed.pushUser options.userMessage
  ⟨opened, some (keyOf options)⟩

end AgentChat

/-- Where the loop of a run stands: about to ask the model, or dispatching the calls of its
turn, some done and the others pending. -/
inductive Phase where
  | idle
  | asking (step maxSteps : Nat)
  | calling (step maxSteps : Nat) (outputs : List ToolOutput) (pending : List PendingCall)

structure Session where
  chat : AgentChat
  phase : Phase

/-- What happens to a chat. A run is stopped by the user or by the timeout of its block. -/
inductive Action where
  | start (options : RunOptions) (saved : List AiChatMessage)
  | answered (stream : List Streamed)
  | dispatched (content : Text) (isError : Bool)
  | stopped
  | reset

namespace Session

def new : Session := ⟨AgentChat.new, .idle⟩

/-- The run after the model's turn: it ends when nothing is to be called. -/
def turned (chat : AgentChat) (step maxSteps : Nat) (stream : List Streamed) : Session :=
  match chat.transcript.runTurn stream with
  | .error _ => ⟨chat, .idle⟩
  | .ok (turn, transcript) =>
    ⟨{ chat with transcript := transcript },
      if turn.calls.isEmpty then .idle else .calling step maxSteps [] turn.calls⟩

/-- The run after one more call is dispatched: the outputs of a whole turn go to the model. -/
def answeredCall (chat : AgentChat) (step maxSteps : Nat) (outputs : List ToolOutput)
    (later : List PendingCall) : Session :=
  if later.isEmpty then
    ⟨{ chat with transcript := chat.transcript.pushToolOutputs outputs },
      if step < maxSteps then .asking (step + 1) maxSteps else .idle⟩
  else ⟨chat, .calling step maxSteps outputs later⟩

def dispatch (chat : AgentChat) (step maxSteps : Nat) (outputs : List ToolOutput)
    (content : Text) (isError : Bool) : List PendingCall → Option Session
  | [] => none
  | call :: later =>
    some (answeredCall chat step maxSteps (outputs ++ [⟨call, content, isError⟩]) later)

def begun (chat : AgentChat) (options : RunOptions) : Session :=
  ⟨chat.begin options, .asking 1 (min (max options.maxSteps MIN_AGENT_STEPS) MAX_AGENT_STEPS)⟩

def step : Session → Action → Option Session
  | ⟨chat, .idle⟩, .start options saved =>
    some (begun chat { options with history := historyForModel saved })
  | ⟨_, .idle⟩, .reset => some new
  | ⟨chat, .asking step maxSteps⟩, .answered stream => some (turned chat step maxSteps stream)
  | ⟨chat, .calling step maxSteps outputs pending⟩, .dispatched content isError =>
    dispatch chat step maxSteps outputs content isError pending
  | ⟨chat, .asking _ _⟩, .stopped => some ⟨chat, .idle⟩
  | ⟨chat, .calling _ _ _ _⟩, .stopped => some ⟨chat, .idle⟩
  | _, _ => none

end Session

/-- What a provider takes: the user opens and ends the request, the calls of a message are
each answered once by the message behind it, and no other result stands anywhere. -/
structure WellFormed (messages : List Message) : Prop where
  opens : ∃ content rest, messages = .user content :: rest ∧ resultIds content = []
  ends : ∃ before content, messages = before ++ [.user content]
  answered : ∀ before content later, messages = before ++ .assistant content :: later →
    callIds content ≠ [] →
      ∃ results rest, later = .user results :: rest ∧
        (resultIds results).Perm (callIds content)
  called : ∀ before results later id, messages = before ++ .user results :: later →
    id ∈ resultIds results →
      ∃ earlier content, before = earlier ++ [.assistant content] ∧ id ∈ callIds content

/-- Every request that the run is about to build is well formed. -/
def Session.AsksWell (s : Session) : Prop :=
  ∀ step maxSteps messages, s.phase = .asking step maxSteps →
    s.chat.transcript.request = some messages → WellFormed messages

/-- Of what the cut of the oldest messages leaves, the user's stands first. -/
def CutsAtUser (messages : List Message) : Prop :=
  ∀ first, (messages.drop (messages.length - MAX_TRANSCRIPT)).find?
    (fun message => !message.isToolResult) = some first → first.isUser

/-- The last message leaves no call unanswered. -/
def Settled (messages : List Message) : Prop :=
  ∀ content, messages.getLast? = some (.assistant content) → callIds content = []

/-- A run starts, unless it changes the model, from a transcript that is cut at a message of
the user and whose calls are all answered. -/
def Session.StartsWhole (s : Session) : Action → Prop
  | .start options _ =>
    s.chat.switches options = true ∨
      CutsAtUser s.chat.transcript.messages ∧ Settled s.chat.transcript.messages
  | _ => True

section Calls

/-- The calls still to be answered behind the messages, when `pending` are to be answered
before them; nothing when a message answers other calls than it should. -/
def owes (pending : List Text) : List Message → Option (List Text)
  | [] => some pending
  | .user content :: rest => if resultIds content = pending then owes [] rest else none
  | .assistant content :: rest => if pending = [] then owes (callIds content) rest else none

@[simp]
theorem owes_nil (pending : List Text) : owes pending [] = some pending := rfl

theorem owes_user {pending owed : List Text} {content : List UserContent} {rest : List Message}
    (found : owes pending (.user content :: rest) = some owed) :
    resultIds content = pending ∧ owes [] rest = some owed := by
  rw [owes] at found
  split at found
  · exact ⟨‹_›, found⟩
  · cases found

theorem owes_assistant {pending owed : List Text} {content : List AssistantContent}
    {rest : List Message} (found : owes pending (.assistant content :: rest) = some owed) :
    pending = [] ∧ owes (callIds content) rest = some owed := by
  rw [owes] at found
  split at found
  · exact ⟨‹_›, found⟩
  · cases found

theorem owes_append (pending : List Text) (before later : List Message) :
    owes pending (before ++ later) =
      (owes pending before).bind fun owed => owes owed later := by
  induction before generalizing pending with
  | nil => rfl
  | cons message before ih =>
    cases message with
    | user content =>
      rw [List.cons_append, owes, owes]
      split
      · exact ih []
      · rfl
    | assistant content =>
      rw [List.cons_append, owes, owes]
      split
      · exact ih (callIds content)
      · rfl

/-- What is owed behind a message depends on that message alone. -/
theorem owes_last {pending owed : List Text} {before : List Message} {last : Message}
    (found : owes pending (before ++ [last]) = some owed) :
    (∃ content, last = .user content ∧ owed = []) ∨
      ∃ content, last = .assistant content ∧ owed = callIds content := by
  rw [owes_append] at found
  obtain ⟨middle, -, rest⟩ := Option.bind_eq_some_iff.mp found
  cases last with
  | user content =>
    have answered := (owes_user rest).2
    exact .inl ⟨content, rfl, (Option.some.inj answered).symm⟩
  | assistant content =>
    have called := (owes_assistant rest).2
    exact .inr ⟨content, rfl, (Option.some.inj called).symm⟩

theorem isToolResult_iff (content : List UserContent) :
    (Message.user content).isToolResult = false ↔ resultIds content = [] := by
  rw [Message.isToolResult, resultIds, List.filterMap_eq_nil_iff, List.any_eq_false]
  simp

theorem wellFormed_of_owes {messages : List Message} (owed : owes [] messages = some [])
    (first : ∀ message, messages.head? = some message → message.isUser)
    (last : ∃ before content, messages = before ++ [.user content]) : WellFormed messages where
  opens := by
    obtain ⟨before, content, rfl⟩ := last
    obtain ⟨head, rest, shape⟩ := List.exists_cons_of_ne_nil
      (List.append_ne_nil_of_right_ne_nil before (List.cons_ne_nil (Message.user content) []))
    rw [shape] at owed first ⊢
    have user := first head rfl
    cases head with
    | user content => exact ⟨content, rest, rfl, (owes_user owed).1⟩
    | assistant content => cases user
  ends := last
  answered := by
    rintro before content later rfl calls
    rw [owes_append] at owed
    obtain ⟨middle, -, rest⟩ := Option.bind_eq_some_iff.mp owed
    have called := (owes_assistant rest).2
    cases later with
    | nil => exact absurd (Option.some.inj called) calls
    | cons next later =>
      cases next with
      | user results => exact ⟨results, later, rfl, .of_eq (owes_user called).1⟩
      | assistant other => exact absurd (owes_assistant called).1 calls
  called := by
    rintro before results later id rfl member
    rw [owes_append] at owed
    obtain ⟨middle, found, rest⟩ := Option.bind_eq_some_iff.mp owed
    have answers := (owes_user rest).1
    rcases List.eq_nil_or_concat before with rfl | ⟨earlier, last, rfl⟩
    · rw [owes_nil] at found
      rw [answers, ← Option.some.inj found] at member
      exact absurd member List.not_mem_nil
    · rw [List.concat_eq_append] at found ⊢
      rcases owes_last found with ⟨content, -, rfl⟩ | ⟨content, rfl, rfl⟩
      · rw [answers] at member
        exact absurd member List.not_mem_nil
      · exact ⟨earlier, content, rfl, by rwa [answers] at member⟩

end Calls

section Trimming

theorem owes_drop {pending owed : List Text} {messages : List Message}
    (found : owes pending messages = some owed) (count : Nat) :
    ∃ middle, owes middle (messages.drop count) = some owed := by
  rw [← List.take_append_drop count messages, owes_append] at found
  obtain ⟨middle, -, rest⟩ := Option.bind_eq_some_iff.mp found
  exact ⟨middle, rest⟩

/-- Once no result stands first, nothing is owed in front. -/
theorem owes_dropWhile {pending owed : List Text} {messages : List Message}
    (found : owes pending messages = some owed)
    (filled : messages.dropWhile Message.isToolResult ≠ []) :
    owes [] (messages.dropWhile Message.isToolResult) = some owed := by
  induction messages generalizing pending with
  | nil => exact absurd rfl filled
  | cons message rest ih =>
    cases message with
    | user content =>
      obtain ⟨answers, later⟩ := owes_user found
      cases result : (Message.user content).isToolResult with
      | true =>
        rw [List.dropWhile_cons_of_pos result] at filled ⊢
        exact ih later filled
      | false =>
        rw [List.dropWhile_cons_of_neg (by simp [result])]
        rw [(isToolResult_iff content).mp result] at answers
        rw [answers]
        exact found
    | assistant content =>
      rw [List.dropWhile_cons_of_neg Bool.false_ne_true]
      rw [(owes_assistant found).1] at found
      exact found

/-- The newest messages that a run keeps. -/
def cut (messages : List Message) : List Message :=
  if messages.length > MAX_TRANSCRIPT then
    (messages.drop (messages.length - MAX_TRANSCRIPT)).dropWhile Message.isToolResult
  else messages

theorem trimTo_messages (transcript : Transcript) :
    (transcript.trimTo MAX_TRANSCRIPT).messages = cut transcript.messages := by
  rw [Transcript.trimTo, cut]
  split <;> rfl

theorem cut_suffix (messages : List Message) : cut messages <:+ messages := by
  rw [cut]
  split
  · exact (List.dropWhile_suffix _).trans (List.drop_suffix _ _)
  · exact List.suffix_refl messages

theorem cut_last (messages : List Message) (filled : cut messages ≠ []) :
    (cut messages).getLast? = messages.getLast? := by
  obtain ⟨before, whole⟩ := cut_suffix messages
  conv => rhs; rw [← whole, List.getLast?_append_of_ne_nil _ filled]

theorem owes_cut {owed : List Text} {messages : List Message}
    (found : owes [] messages = some owed) (filled : cut messages ≠ []) :
    owes [] (cut messages) = some owed := by
  rw [cut] at filled ⊢
  split at filled
  · rw [if_pos ‹_›]
    obtain ⟨middle, later⟩ := owes_drop found (messages.length - MAX_TRANSCRIPT)
    exact owes_dropWhile later filled
  · rwa [if_neg ‹_›]

/-- Where nothing is owed in front, no result stands first. -/
theorem head_plain {owed : List Text} {messages : List Message} {first : Message}
    (found : owes [] messages = some owed) (head : messages.head? = some first) :
    first.isToolResult = false := by
  cases messages with
  | nil => cases head
  | cons message rest =>
    obtain rfl := Option.some.inj head
    cases message with
    | user content => exact (isToolResult_iff content).mpr (owes_user found).1
    | assistant content => rfl

theorem cut_head {owed : List Text} {messages : List Message}
    (found : owes [] messages = some owed) :
    (cut messages).head? = (messages.drop (messages.length - MAX_TRANSCRIPT)).find?
      fun message => !message.isToolResult := by
  rw [cut]
  split
  · exact (List.find?_not_eq_head?_dropWhile ..).symm
  · have whole : messages.length - MAX_TRANSCRIPT = 0 := by omega
    rw [whole, List.drop_zero]
    cases messages with
    | nil => rfl
    | cons message rest =>
      have plain := head_plain found rfl
      rw [List.head?_cons, List.find?_cons_of_pos (by simp [plain])]

end Trimming

section Beginning

theorem replay_messages (transcript : Transcript) (history : List HistoryTurn) :
    (transcript.replay history).messages =
      transcript.messages ++ history.map fun turn =>
        if turn.assistant then .assistant [.text turn.text] else .user [.text turn.text] := by
  rw [Transcript.replay]
  induction history generalizing transcript with
  | nil => exact (List.append_nil _).symm
  | cons turn history ih =>
    rw [List.foldl_cons, ih, List.map_cons, List.append_cons]
    cases turn.assistant <;> rfl

theorem owes_texts (history : List HistoryTurn) :
    owes [] (history.map fun turn =>
      if turn.assistant then .assistant [.text turn.text] else .user [.text turn.text]) =
        some [] := by
  induction history with
  | nil => rfl
  | cons turn history ih =>
    rw [List.map_cons]
    cases turn.assistant with
    | true => exact ih
    | false => exact ih

/-- A replayed chat opens on a question. -/
theorem historyForModel_head (saved : List AiChatMessage) (turn : HistoryTurn)
    (head : (historyForModel saved).head? = some turn) : turn.assistant = false := by
  rw [historyForModel, ← List.find?_not_eq_head?_dropWhile] at head
  have found := List.find?_some head
  rwa [Bool.not_eq_true'] at found

/-- The request that a start of a run leads to, before its last message is there. -/
def opening (chat : AgentChat) (options : RunOptions) : Transcript :=
  if (chat.kept options).messages.isEmpty then (chat.kept options).replay options.history
  else chat.kept options

theorem begin_transcript (chat : AgentChat) (options : RunOptions) :
    (chat.begin options).transcript =
      if options.resume then (opening chat options).resume RESUME_NUDGE
      else (opening chat options).pushUser options.userMessage := rfl

/-- A start ends the transcript on the user's turn, leaving its messages in place. -/
theorem begin_messages (chat : AgentChat) (options : RunOptions) :
    (∃ content, (opening chat options).messages.getLast? = some (.user content) ∧
        (chat.begin options).transcript.messages = (opening chat options).messages) ∨
      ∃ text, (chat.begin options).transcript.messages =
        (opening chat options).messages ++ [.user [.text text]] := by
  rw [begin_transcript]
  split
  · rw [Transcript.resume]
    split
    · exact .inl ⟨_, ‹_›, rfl⟩
    · exact .inr ⟨_, rfl⟩
  · exact .inr ⟨_, rfl⟩

theorem begin_wellFormed {chat : AgentChat} {options : RunOptions}
    (owed : owes [] (opening chat options).messages = some [])
    (first : ∀ message, (opening chat options).messages.head? = some message → message.isUser) :
    owes [] (chat.begin options).transcript.messages = some [] ∧
      WellFormed (chat.begin options).transcript.messages := by
  rcases begin_messages chat options with ⟨content, last, same⟩ | ⟨text, more⟩
  · rw [same]
    refine ⟨owed, wellFormed_of_owes owed first ?_⟩
    obtain ⟨before, shape⟩ := List.getLast?_eq_some_iff.mp last
    exact ⟨before, content, shape⟩
  · rw [more]
    have closed : owes [] ((opening chat options).messages ++ [.user [.text text]]) = some [] := by
      rw [owes_append, owed]
      rfl
    refine ⟨closed, wellFormed_of_owes closed ?_ ⟨_, _, rfl⟩⟩
    intro message head
    cases shape : (opening chat options).messages with
    | nil =>
      rw [shape] at head
      obtain rfl := Option.some.inj head
      rfl
    | cons front rest =>
      rw [shape] at head first
      exact first message head

end Beginning

section Runs

/-- What the messages owe in a phase: the calls of the last turn, while they are dispatched. -/
def Phase.Owes : Phase → List Text → Prop
  | .idle, _ => True
  | .asking _ _, owed => owed = []
  | .calling _ _ outputs pending, owed =>
    owed = (outputs.map fun out => out.call.inner.id) ++ pending.map fun call => call.inner.id

structure Session.Linked (s : Session) : Prop where
  owed : ∃ owed, owes [] s.chat.transcript.messages = some owed ∧ s.phase.Owes owed
  first : ∀ message, s.chat.transcript.messages.head? = some message → message.isUser
  asks : ∀ step maxSteps, s.phase = .asking step maxSteps →
    ∃ before content, s.chat.transcript.messages = before ++ [.user content]

theorem linked_new : Session.new.Linked where
  owed := ⟨[], rfl, trivial⟩
  first := by
    intro message head
    cases head
  asks := by
    intro step maxSteps phase
    cases phase

theorem Session.Linked.asksWell {s : Session} (linked : s.Linked) : s.AsksWell := by
  intro step maxSteps messages phase request
  rw [Transcript.request] at request
  split at request
  · cases request
  · obtain rfl := Option.some.inj request
    obtain ⟨owed, found, settled⟩ := linked.owed
    rw [phase] at settled
    obtain rfl : owed = [] := settled
    exact wellFormed_of_owes found linked.first (linked.asks step maxSteps phase)

theorem opening_kept {chat : AgentChat} {options : RunOptions}
    (filled : (chat.kept options).messages ≠ []) :
    opening chat options = chat.kept options := by
  rw [opening, if_neg]
  rwa [List.isEmpty_iff]

theorem kept_messages (chat : AgentChat) (options : RunOptions) :
    (chat.kept options).messages =
      if chat.switches options then [] else cut chat.transcript.messages := by
  rw [AgentChat.kept, trimTo_messages]
  split <;> rfl

/-- A start that finds its transcript whole sends a well-formed request. -/
theorem start_linked {s : Session} (linked : s.Linked) (options : RunOptions)
    (saved : List AiChatMessage) (history : options.history = historyForModel saved)
    (whole : s.StartsWhole (.start options saved)) :
    owes [] (opening s.chat options).messages = some [] ∧
      ∀ message, (opening s.chat options).messages.head? = some message → message.isUser := by
  obtain ⟨owed, found, -⟩ := linked.owed
  cases left : (s.chat.kept options).messages with
  | nil =>
    have replayed : opening s.chat options = (s.chat.kept options).replay options.history := by
      rw [opening, left]
      rfl
    rw [replayed, replay_messages, left, List.nil_append]
    refine ⟨owes_texts _, ?_⟩
    intro message head
    rw [List.head?_map, Option.map_eq_some_iff] at head
    obtain ⟨turn, opens, rfl⟩ := head
    rw [history] at opens
    rw [historyForModel_head saved turn opens]
    rfl
  | cons front rest =>
    have filled : (s.chat.kept options).messages ≠ [] := by simp [left]
    rw [opening_kept filled]
    have stays : ¬s.chat.switches options = true := by
      intro switches
      rw [kept_messages, if_pos switches] at filled
      exact filled rfl
    have messages := kept_messages s.chat options
    rw [if_neg stays] at messages
    rw [messages] at filled ⊢
    obtain ⟨cuts, settled⟩ := whole.resolve_left stays
    have kept := owes_cut found filled
    constructor
    · obtain ⟨before, last, shape⟩ := List.eq_nil_or_concat (cut s.chat.transcript.messages)
        |>.resolve_left filled
      rw [List.concat_eq_append] at shape
      rw [shape] at kept ⊢
      rcases owes_last kept with ⟨content, -, rfl⟩ | ⟨content, rfl, rfl⟩
      · exact kept
      · have lastMessage := cut_last _ filled
        rw [shape, List.getLast?_concat] at lastMessage
        rw [kept, settled content lastMessage.symm]
    · intro message head
      rw [cut_head found] at head
      exact cuts message head

theorem head_append {messages more : List Message} (filled : messages ≠ [])
    (first : ∀ message, messages.head? = some message → message.isUser) :
    ∀ message, (messages ++ more).head? = some message → message.isUser := by
  intro message head
  rw [List.head?_append_of_ne_nil messages filled] at head
  exact first message head

theorem callIds_blocks (text : Text) (calls : List ToolCall) :
    callIds (Transcript.blocks text calls) = calls.map ToolCall.id := by
  have called : (calls.map AssistantContent.toolCall).filterMap AssistantContent.callId =
      calls.map ToolCall.id := by
    rw [List.filterMap_map, ← List.filterMap_eq_map]
    rfl
  rw [Transcript.blocks, callIds, List.filterMap_append, called]
  split <;> rfl

theorem resultIds_outputs (outputs : List ToolOutput) :
    resultIds (outputs.map Transcript.resultOf) =
      outputs.map fun out => out.call.inner.id := by
  rw [resultIds, List.filterMap_map, ← List.filterMap_eq_map]
  rfl

theorem record_calls (transcript : Transcript) (text : Text) (calls : List ToolCall) :
    (transcript.record text calls).1.calls.map (fun call => call.inner.id) =
      calls.map ToolCall.id := by
  show (calls.mapIdx fun i call => Transcript.pendingCall (transcript.callSeq + i + 1) call).map _ = _
  rw [List.mapIdx_eq_zipIdx_map, List.map_map]
  conv => rhs; rw [← List.zipIdx_map_fst 0 calls, List.map_map]
  rfl

theorem turned_linked {chat : AgentChat} {step maxSteps : Nat}
    (linked : Session.Linked ⟨chat, .asking step maxSteps⟩) (stream : List Streamed) :
    (Session.turned chat step maxSteps stream).Linked := by
  obtain ⟨owed, found, rfl⟩ := linked.owed
  obtain ⟨before, content, shape⟩ := linked.asks step maxSteps rfl
  have filled : chat.transcript.messages ≠ [] := by
    intro empty
    rw [empty] at shape
    simp at shape
  rw [Session.turned]
  split
  · exact ⟨⟨[], found, trivial⟩, linked.first, by rintro _ _ ⟨⟩⟩
  · rename_i turn transcript turned
    rw [Transcript.runTurn] at turned
    split at turned
    · cases turned
    · obtain ⟨⟨text, calls⟩, recorded⟩ : ∃ driven : Text × List ToolCall,
          chat.transcript.record driven.1 driven.2 = (turn, transcript) := by
        cases outcome : Transcript.drive stream with
        | error error =>
          rw [outcome] at turned
          cases turned
        | ok driven =>
          rw [outcome] at turned
          exact ⟨driven, Except.ok.inj turned⟩
      have turn_calls := record_calls chat.transcript text calls
      rw [recorded] at turn_calls
      obtain rfl : transcript = (chat.transcript.record text calls).2 := by rw [recorded]
      by_cases silent : (Transcript.blocks text calls).isEmpty
      · have messages : (chat.transcript.record text calls).2.messages =
            chat.transcript.messages := if_pos silent
        have none_called : turn.calls = [] := by
          have ids := callIds_blocks text calls
          rw [List.isEmpty_iff.mp silent] at ids
          rw [← ids] at turn_calls
          exact List.map_eq_nil_iff.mp turn_calls
        rw [none_called]
        refine ⟨⟨[], by rw [messages]; exact found, trivial⟩, ?_, by rintro _ _ ⟨⟩⟩
        rw [messages]
        exact linked.first
      · have messages : (chat.transcript.record text calls).2.messages =
            chat.transcript.messages ++ [.assistant (Transcript.blocks text calls)] :=
          if_neg silent
        have owes_calls : owes [] (chat.transcript.record text calls).2.messages =
            some (calls.map ToolCall.id) := by
          rw [messages, owes_append, found, ← callIds_blocks text calls]
          rfl
        refine ⟨⟨_, owes_calls, ?_⟩, ?_, ?_⟩
        · show Phase.Owes (if turn.calls.isEmpty then .idle else _) _
          split
          · trivial
          · exact turn_calls.symm
        · rw [messages]
          exact head_append filled linked.first
        · intro next most asking
          have phase : (if turn.calls.isEmpty then Phase.idle
            else .calling step maxSteps [] turn.calls) = .asking next most := asking
          split at phase <;> cases phase

theorem answeredCall_linked {chat : AgentChat} {step maxSteps : Nat} {outputs : List ToolOutput}
    {call : PendingCall} {later : List PendingCall}
    (linked : Session.Linked ⟨chat, .calling step maxSteps outputs (call :: later)⟩)
    (content : Text) (isError : Bool) :
    (Session.answeredCall chat step maxSteps (outputs ++ [⟨call, content, isError⟩])
      later).Linked := by
  obtain ⟨owed, found, ids⟩ := linked.owed
  obtain rfl : owed = (outputs.map fun out => out.call.inner.id) ++
    (call :: later).map fun call => call.inner.id := ids
  rw [Session.answeredCall]
  split
  · rename_i last
    obtain rfl := List.isEmpty_iff.mp last
    simp only [List.map_cons, List.map_nil] at found
    have filled : chat.transcript.messages ≠ [] := by
      intro empty
      rw [empty, owes_nil] at found
      simp at found
    have messages : (chat.transcript.pushToolOutputs
        (outputs ++ [ToolOutput.mk call content isError])).messages = chat.transcript.messages ++
          [.user ((outputs ++ [ToolOutput.mk call content isError]).map Transcript.resultOf)] := by
      rw [Transcript.pushToolOutputs, if_neg (by simp)]
      rfl
    have answers : owes [] (chat.transcript.pushToolOutputs
        (outputs ++ [ToolOutput.mk call content isError])).messages = some [] := by
      rw [messages, owes_append, found, Option.bind_some, owes, resultIds_outputs, if_pos]
      · rfl
      · rw [List.map_append]
        rfl
    refine ⟨⟨[], answers, ?_⟩, ?_, ?_⟩
    · show Phase.Owes (if step < maxSteps then .asking (step + 1) maxSteps else .idle) []
      split
      · rfl
      · trivial
    · show ∀ message, (chat.transcript.pushToolOutputs _).messages.head? = some message → _
      rw [messages]
      exact head_append filled linked.first
    · intro _ _ _
      exact ⟨_, _, messages⟩
  · refine ⟨⟨_, found, ?_⟩, linked.first, by rintro _ _ ⟨⟩⟩
    show _ = ((outputs ++ [ToolOutput.mk call content isError]).map _) ++ _
    rw [List.map_append, List.append_assoc]
    rfl

theorem step_linked (s : Session) (action : Action) (next : Session) (linked : s.Linked)
    (whole : s.StartsWhole action) (stepped : s.step action = some next) : next.Linked := by
  obtain ⟨chat, phase⟩ := s
  cases phase with
  | idle =>
    cases action with
    | start options saved =>
      obtain rfl := Option.some.inj stepped
      obtain ⟨owed, first⟩ := start_linked linked
        { options with history := historyForModel saved } saved rfl whole
      obtain ⟨closed, wellFormed⟩ := begin_wellFormed owed first
      refine ⟨⟨[], closed, rfl⟩, ?_, ?_⟩
      · intro message head
        obtain ⟨content, rest, shape, -⟩ := wellFormed.opens
        have here : (chat.begin { options with
          history := historyForModel saved }).transcript.messages.head? = some message := head
        rw [shape] at here
        obtain rfl := Option.some.inj here
        rfl
      · intro _ _ _
        exact wellFormed.ends
    | reset =>
      obtain rfl := Option.some.inj stepped
      exact linked_new
    | answered => cases stepped
    | dispatched => cases stepped
    | stopped => cases stepped
  | asking step maxSteps =>
    cases action with
    | answered stream =>
      obtain rfl := Option.some.inj stepped
      exact turned_linked linked stream
    | stopped =>
      obtain rfl := Option.some.inj stepped
      obtain ⟨owed, found, -⟩ := linked.owed
      exact ⟨⟨owed, found, trivial⟩, linked.first, by rintro _ _ ⟨⟩⟩
    | start => cases stepped
    | dispatched => cases stepped
    | reset => cases stepped
  | calling step maxSteps outputs pending =>
    cases action with
    | stopped =>
      obtain rfl := Option.some.inj stepped
      obtain ⟨owed, found, -⟩ := linked.owed
      exact ⟨⟨owed, found, trivial⟩, linked.first, by rintro _ _ ⟨⟩⟩
    | dispatched content isError =>
      cases pending with
      | nil => cases stepped
      | cons call later =>
        obtain rfl := Option.some.inj stepped
        exact answeredCall_linked linked content isError
    | start => cases stepped
    | answered => cases stepped
    | reset => cases stepped

/-- A start that finds its transcript cut at an answer, or a call unanswered, sends a
request that is not well formed. -/
theorem start_broken {s : Session} (linked : s.Linked) (options : RunOptions)
    (saved : List AiChatMessage) (broken : ¬s.StartsWhole (.start options saved)) :
    ¬WellFormed (s.chat.begin { options with
      history := historyForModel saved }).transcript.messages := by
  obtain ⟨owed, found, -⟩ := linked.owed
  have stays : ¬s.chat.switches options = true := fun switches => broken (.inl switches)
  have kept := kept_messages s.chat { options with history := historyForModel saved }
  rw [if_neg (show ¬s.chat.switches { options with history := historyForModel saved } = true
    from stays)] at kept
  have openedWith : cut s.chat.transcript.messages ≠ [] →
      (opening s.chat { options with history := historyForModel saved }).messages =
        cut s.chat.transcript.messages := by
    intro filled
    rw [opening_kept (by rwa [kept]), kept]
  have begins := begin_messages s.chat { options with history := historyForModel saved }
  intro wellFormed
  refine broken (.inr ⟨?_, ?_⟩)
  · intro first head
    rw [← cut_head found] at head
    have filled : cut s.chat.transcript.messages ≠ [] := by
      intro empty
      rw [empty] at head
      cases head
    rw [openedWith filled] at begins
    obtain ⟨content, rest, shape, -⟩ := wellFormed.opens
    have front : (s.chat.begin { options with
        history := historyForModel saved }).transcript.messages.head? = some first := by
      rcases begins with ⟨-, -, same⟩ | ⟨text, more⟩
      · rw [same, head]
      · rw [more, List.head?_append_of_ne_nil _ filled, head]
    rw [shape] at front
    obtain rfl := Option.some.inj front
    rfl
  · intro content last
    have filled : cut s.chat.transcript.messages ≠ [] := by
      intro empty
      rw [cut] at empty
      split at empty
      · -- the last message is no tool result, so the cut keeps it
        have dropped := List.dropWhile_eq_nil_iff.mp empty
        have member : Message.assistant content ∈ s.chat.transcript.messages.drop
            (s.chat.transcript.messages.length - MAX_TRANSCRIPT) := by
          refine List.mem_of_getLast? (l := _) ?_
          rw [List.getLast?_drop, if_neg, last]
          have positive : 0 < MAX_TRANSCRIPT := by decide
          omega
        exact absurd (dropped _ member) Bool.false_ne_true
      · rw [empty] at last
        cases last
    rw [openedWith filled] at begins
    obtain ⟨before, shape⟩ := List.getLast?_eq_some_iff.mp ((cut_last _ filled).trans last)
    rw [shape] at begins
    rcases begins with ⟨other, user, -⟩ | ⟨text, more⟩
    · rw [List.getLast?_concat] at user
      cases user
    · by_contra called
      rw [List.append_assoc, List.singleton_append] at more
      obtain ⟨results, rest, behind, answers⟩ :=
        wellFormed.answered before content [.user [.text text]] more called
      obtain ⟨same, -⟩ := List.cons.inj behind
      cases same
      exact called (List.nil_perm.mp answers)

/-- The requests of a chat are well formed exactly when each of its runs starts from a whole
transcript. -/
theorem requests_well_formed_iff (actions : List Action) :
    Throughout Session.step Session.AsksWell Session.new actions ↔
      Along Session.step Session.StartsWhole Session.new actions := by
  refine throughout_iff_along (fun _ => Session.Linked.asksWell) step_linked ?_ linked_new actions
  rintro ⟨chat, phase⟩ action next linked broken stepped asksWell
  cases action with
  | start options saved =>
    cases phase with
    | idle =>
      obtain rfl := Option.some.inj stepped
      have sent : (chat.begin { options with
          history := historyForModel saved }).transcript.messages ≠ [] := by
        intro empty
        rcases begin_messages chat { options with history := historyForModel saved } with
          ⟨content, last, same⟩ | ⟨text, more⟩
        · rw [← same, empty] at last
          cases last
        · rw [empty] at more
          simp at more
      refine start_broken linked options saved broken (asksWell 1 _ _ rfl ?_)
      exact if_neg fun empty => sent (List.isEmpty_iff.mp empty)
    | asking => cases stepped
    | calling => cases stepped
  | answered => exact broken trivial
  | dispatched => exact broken trivial
  | stopped => exact broken trivial
  | reset => exact broken trivial

def question : RunOptions := ⟨"p".toList, "m".toList, "hello".toList, [], 8, false⟩

/-- A run stopped before the call of its turn is dispatched, and the next question. -/
theorem stopped_before_its_call :
    ¬∀ actions, Throughout Session.step Session.AsksWell Session.new actions := by
  intro always
  have asked := always [.start question [],
    .answered [.toolCall ⟨"a".toList, none, "list_tables".toList, .null⟩], .stopped,
    .start question []]
  have last := (throughout_iff Session.AsksWell Session.new _).mp asked _ _
    (List.prefix_refl _) rfl
  have wellFormed := last 1 8 _ rfl rfl
  obtain ⟨results, rest, behind, answers⟩ := wellFormed.answered
    [.user [.text "hello".toList]] [.toolCall ⟨"a".toList, none, "list_tables".toList, .null⟩]
    [.user [.text "hello".toList]] rfl (by decide)
  obtain ⟨same, -⟩ := List.cons.inj behind
  cases same
  exact absurd answers.length_eq (by decide)

end Runs

end DbFree.Transcripts
