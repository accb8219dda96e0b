import DbFree.Errors
import DbFree.SqlText

/- The messages of a chat with a model, and what adds to them and drops them
(services/agent/provider.rs, services/ai_chats.rs). -/
namespace DbFree.Transcripts

open Texts

/-- A tool call of the model, with the identifiers its provider gave it. -/
structure ToolCall where
  id : Text
  provider : Option Text
  name : Text
  arguments : Json

inductive UserContent where
  | text (text : Text)
  | toolResult (id : Text) (provider : Option Text) (name : Text) (text : Text)

inductive AssistantContent where
  | text (text : Text)
  | toolCall (call : ToolCall)

inductive Message where
  | user (content : List UserContent)
  | assistant (content : List AssistantContent)

def AssistantContent.callId : AssistantContent → Option Text
  | toolCall call => some call.id
  | text _ => none

def UserContent.resultId : UserContent → Option Text
  | toolResult id _ _ _ => some id
  | text _ => none

/-- The calls an assistant's message makes. -/
def callIds (content : List AssistantContent) : List Text :=
  content.filterMap AssistantContent.callId

/-- The calls whose results a user's message carries. -/
def resultIds (content : List UserContent) : List Text :=
  content.filterMap UserContent.resultId

namespace Message

def isUser : Message → Bool
  | user _ => true
  | assistant _ => false

/-- A user's message that carries a tool result. -/
def isToolResult : Message → Bool
  | user content => content.any fun part => part.resultId.isSome
  | assistant _ => false

end Message

/-- A call waiting to be dispatched, under the handle the UI knows it by. -/
structure PendingCall where
  uiId : Text
  name : Text
  arguments : Json
  inner : ToolCall

structure ToolOutput where
  call : PendingCall
  content : Text
  isError : Bool

structure ModelTurn where
  text : Text
  calls : List PendingCall

/-- What the stream of a model's turn brings. -/
inductive Streamed where
  | text (part : Text)
  | toolCall (call : ToolCall)
  | reasoning (summary : Text)
  | failed (error : AppError)

structure Transcript where
  messages : List Message
  callSeq : Nat

namespace Transcript

def new : Transcript := ⟨[], 0⟩

def push (transcript : Transcript) (message : Message) : Transcript :=
  { transcript with messages := transcript.messages ++ [message] }

def pushUser (transcript : Transcript) (text : Text) : Transcript :=
  transcript.push (.user [.text text])

def pushAssistantText (transcript : Transcript) (text : Text) : Transcript :=
  transcript.push (.assistant [.text text])

/-- The nudge closes a transcript that does not end on the user's turn. -/
def resume (transcript : Transcript) (nudge : Text) : Transcript :=
  match transcript.messages.getLast? with
  | some (.user _) => transcript
  | _ => transcript.pushUser nudge

def reset (transcript : Transcript) : Transcript := { transcript with messages := [] }

/-- The newest messages; a tool result never stands first. -/
def trimTo (transcript : Transcript) (keep : Nat) : Transcript :=
  if transcript.messages.length > keep then
    let kept := transcript.messages.drop (transcript.messages.length - keep)
    { transcript with messages := kept.dropWhile Message.isToolResult }
  else transcript

def resultOf (out : ToolOutput) : UserContent :=
  .toolResult out.call.inner.id out.call.inner.provider out.call.name
    (if out.isError then "ERROR: ".toList ++ out.content else out.content)

def pushToolOutputs (transcript : Transcript) (outputs : List ToolOutput) : Transcript :=
  if outputs.isEmpty then transcript else transcript.push (.user (outputs.map resultOf))

/-- The text and the calls of a stream, or its first failure. -/
def drive : List Streamed → Except AppError (Text × List ToolCall)
  | [] => .ok ([], [])
  | .failed error :: _ => .error error
  | .text part :: rest => (drive rest).map fun (text, calls) => (part ++ text, calls)
  | .toolCall call :: rest => (drive rest).map fun (text, calls) => (text, call :: calls)
  | .reasoning _ :: rest => drive rest

/-- The blocks of an assistant's message as they came. -/
def blocks (text : Text) (calls : List ToolCall) : List AssistantContent :=
  (if (trim text).isEmpty then [] else [.text text]) ++ calls.map .toolCall

def pendingCall (seq : Nat) (call : ToolCall) : PendingCall where
  uiId := "call-".toList ++ decimal seq
  name := call.name
  arguments := call.arguments
  inner := call

/-- The request of a turn: the whole transcript, its last message being the prompt. -/
def request (transcript : Transcript) : Option (List Message) :=
  if transcript.messages.isEmpty then none else some transcript.messages

/-- The turn with its calls numbered, its message at the end of the transcript. -/
def record (transcript : Transcript) (text : Text) (calls : List ToolCall) :
    ModelTurn × Transcript :=
  let content := blocks text calls
  let messages :=
    if content.isEmpty then transcript.messages
    else transcript.messages ++ [.assistant content]
  let pending := calls.mapIdx fun i call => pendingCall (transcript.callSeq + i + 1) call
  (⟨text, pending⟩, ⟨messages, transcript.callSeq + calls.length⟩)

/-- One model round trip; a failure leaves the transcript as it was. -/
def runTurn (transcript : Transcript) (stream : List Streamed) :
    Except AppError (ModelTurn × Transcript) :=
  match transcript.request with
  | none => .error (.internal "the agent tried to run with no messages".toList)
  | some _ => (drive stream).map fun (text, calls) => transcript.record text calls

end Transcript

inductive AiChatRole where
  | user | assistant
deriving DecidableEq

/-- A message of a saved chat. -/
structure AiChatMessage where
  role : AiChatRole
  text : Text
deriving DecidableEq

/-- One earlier message of a resumed chat, as plain text. -/
structure HistoryTurn where
  assistant : Bool
  text : Text
deriving DecidableEq

def HISTORY_MESSAGES : Nat := 24

def HISTORY_CHARS : Nat := 24000

/-- The loop of `history_for_model`: the messages from the newest on, the turns kept so far
with the newest last. -/
def historyLoop (kept : List HistoryTurn) (chars : Nat) : List AiChatMessage → List HistoryTurn
  | [] => kept
  | message :: older =>
    let text := trim message.text
    if text.isEmpty then historyLoop kept chars older
    else if chars + text.length > HISTORY_CHARS ∧ kept.any fun turn => !turn.assistant then kept
    else historyLoop (⟨message.role == .assistant, text⟩ :: kept) (chars + text.length) older

/-- The text turns of a saved chat that are worth replaying; a question stands first. -/
def historyForModel (messages : List AiChatMessage) : List HistoryTurn :=
  (historyLoop [] 0 (messages.reverse.take HISTORY_MESSAGES)).dropWhile HistoryTurn.assistant

/-- The turns of a saved chat, replayed. -/
def Transcript.replay (transcript : Transcript) (history : List HistoryTurn) : Transcript :=
  history.foldl
    (fun t turn => if turn.assistant then t.pushAssistantText turn.text else t.pushUser turn.text)
    transcript

end DbFree.Transcripts
