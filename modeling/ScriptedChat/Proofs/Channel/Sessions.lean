import ScriptedChat.Channel.Adapter
import ScriptedChat.Proofs.Actions
import ScriptedChat.Proofs.Tables

/-!
What one envelope does to the sessions of an adapter. A message leaves all sessions as they are,
whether or not it is sent; a start opens a session unless there is one, and then keeps its
credential; a stop ends it. So on a platform that opens every session the credentials of the
running sessions are read off the envelopes alone.
-/
namespace ScriptedChat

open ScriptedChat.Action

/-- The credential of the session of each bot that has one. -/
abbrev Sessions := String → Option String

/-- The sessions after an envelope. -/
def Sessions.after (s : Sessions) : Envelope → Sessions
  | .message _ => s
  | .lifecycle ⟨_, .start, none⟩ => s
  | .lifecycle ⟨bot, .start, some token⟩ => fun name =>
    if bot = name then some ((s name).getD token) else s name
  | .lifecycle ⟨bot, .stop, _⟩ => fun name => if bot = name then none else s name

/-- A platform that never refuses to open a session. -/
def Platform.Opens (platform : Platform) : Prop :=
  ∀ calls bot token, platform.refusal? calls (.openSession bot token) = none

namespace Adapter

variable {platform : Platform} {a : Adapter} {bot token : String} {runner : Runner}

/-- The adapter after an envelope, whether or not it could be handled. -/
def handled (platform : Platform) (a : Adapter) (e : Envelope) : Adapter :=
  (exec (dispatch platform e) a).2

/-- The credentials of the running sessions. -/
def tokens (a : Adapter) : Sessions := fun bot => (a.runners.get? bot).map Runner.token

theorem isRunning_eq (a : Adapter) (bot : String) : a.isRunning bot = (a.tokens bot).isSome := by
  rw [isRunning, Table.contains, tokens, Option.isSome_map]

theorem isRunning_of_none (h : a.runners.get? bot = none) : a.isRunning bot = false := by
  rw [isRunning, Table.contains, h]
  rfl

theorem isRunning_of_some (h : a.runners.get? bot = some runner) : a.isRunning bot = true := by
  rw [isRunning, Table.contains, h]
  rfl

/-- A call is written down before it is known whether it is refused. -/
theorem exec_call (platform : Platform) (c : Call) (a : Adapter) :
    exec (call platform c) a =
      (match platform.refusal? a.calls c with
        | some reason => .error (.channel reason)
        | none => .ok (), { a with calls := a.calls ++ [c] }) := by
  cases hrefusal : platform.refusal? a.calls c <;> simp [call, exec_bind, hrefusal]

/-- The call that a message comes to: none, unless its bot runs. -/
def sending (a : Adapter) (m : OutboundMessage) : Option Call :=
  (a.runners.get? m.bot).map fun runner => .send runner.token m.user m.text m.buttons

/-- A message is handed to the platform if its bot runs. Nothing else comes of it, also when the
platform refuses it. -/
theorem handled_message (platform : Platform) (a : Adapter) (m : OutboundMessage) :
    a.handled platform (.message m) = { a with calls := a.calls ++ (a.sending m).toList } := by
  cases hrunner : a.runners.get? m.bot with
  | none => simp [handled, dispatch, send, exec_bind, sending, hrunner]
  | some runner => simp [handled, dispatch, send, exec_bind, sending, hrunner, exec_call]

theorem handled_start_of_running (platform : Platform) (token : String)
    (h : a.runners.get? bot = some runner) :
    a.handled platform (.lifecycle ⟨bot, .start, some token⟩) = a := by
  simp [handled, dispatch, start, exec_bind, isRunning_of_some h]

theorem handled_start_of_agreed (h : a.runners.get? bot = none)
    (hagreed : platform.refusal? a.calls (.openSession bot token) = none) :
    a.handled platform (.lifecycle ⟨bot, .start, some token⟩) =
      { a with
        runners := a.runners.insert ⟨bot, token, a.sessions.length⟩
        calls := a.calls ++ [.openSession bot token]
        sessions := a.sessions ++ [⟨bot, a.shutDown⟩] } := by
  simp [handled, dispatch, start, exec_bind, isRunning_of_none h, exec_call, hagreed]

/-- A session that the platform refuses to open is known, but does not run. -/
theorem handled_start_of_refused {reason : String} (h : a.runners.get? bot = none)
    (hrefused : platform.refusal? a.calls (.openSession bot token) = some reason) :
    a.handled platform (.lifecycle ⟨bot, .start, some token⟩) =
      { a with
        calls := a.calls ++ [.openSession bot token]
        sessions := a.sessions ++ [⟨bot, a.shutDown⟩] } := by
  simp [handled, dispatch, start, exec_bind, isRunning_of_none h, exec_call, hrefused]

theorem handled_start_of_idle (hopens : platform.Opens) (token : String)
    (h : a.runners.get? bot = none) :
    a.handled platform (.lifecycle ⟨bot, .start, some token⟩) =
      { a with
        runners := a.runners.insert ⟨bot, token, a.sessions.length⟩
        calls := a.calls ++ [.openSession bot token]
        sessions := a.sessions ++ [⟨bot, a.shutDown⟩] } :=
  handled_start_of_agreed h (hopens a.calls bot token)

theorem handled_stop_of_idle (platform : Platform) (token : Option String)
    (h : a.runners.get? bot = none) :
    a.handled platform (.lifecycle ⟨bot, .stop, token⟩) = a := by
  simp [handled, dispatch, stop, exec_bind, h]

/-- A session ends whether or not the platform agrees. -/
theorem handled_stop_of_running (platform : Platform) (token : Option String)
    (h : a.runners.get? bot = some runner) :
    a.handled platform (.lifecycle ⟨bot, .stop, token⟩) =
      { a with
        runners := a.runners.erase bot
        calls := a.calls ++ [.closeSession bot]
        sessions := a.sessions.modify runner.session fun s => { s with cancelled := true } } := by
  simp [handled, dispatch, stop, exec_bind, h, exec_call]

theorem tokens_handled_start (hopens : platform.Opens) (a : Adapter) (bot token : String) :
    (a.handled platform (.lifecycle ⟨bot, .start, some token⟩)).tokens =
      a.tokens.after (.lifecycle ⟨bot, .start, some token⟩) := by
  funext name
  cases hrunner : a.runners.get? bot with
  | none =>
    rw [handled_start_of_idle hopens token hrunner]
    by_cases hname : bot = name
    · subst hname
      have hnew := Table.get?_insert_self a.runners ⟨bot, token, a.sessions.length⟩
      simp only [tokens, Sessions.after, hrunner, hnew, if_true, Option.map_some, Option.map_none,
        Option.getD_none]
    · have hother : (a.runners.insert ⟨bot, token, a.sessions.length⟩).get? name =
          a.runners.get? name := Table.get?_insert_of_ne _ hname
      simp only [tokens, Sessions.after, hother, hname, if_false]
  | some runner =>
    rw [handled_start_of_running platform token hrunner]
    by_cases hname : bot = name
    · subst hname
      simp [tokens, Sessions.after, hrunner]
    · simp [Sessions.after, hname]

theorem tokens_handled_stop (platform : Platform) (a : Adapter) (bot : String)
    (token : Option String) :
    (a.handled platform (.lifecycle ⟨bot, .stop, token⟩)).tokens =
      a.tokens.after (.lifecycle ⟨bot, .stop, token⟩) := by
  funext name
  cases hrunner : a.runners.get? bot with
  | none =>
    rw [handled_stop_of_idle platform token hrunner]
    by_cases hname : bot = name
    · subst hname
      simp [tokens, Sessions.after, hrunner]
    · simp [Sessions.after, hname]
  | some runner =>
    rw [handled_stop_of_running platform token hrunner]
    by_cases hname : bot = name
    · subst hname
      simp [tokens, Sessions.after]
    · simp [tokens, Sessions.after, hname, Table.get?_erase_of_ne _ hname]

/-- On a platform that opens every session, an envelope does to the sessions what it says. -/
theorem tokens_handled (hopens : platform.Opens) (a : Adapter) (e : Envelope) :
    (a.handled platform e).tokens = a.tokens.after e := by
  cases e with
  | message m =>
    rw [handled_message]
    rfl
  | lifecycle c =>
    obtain ⟨bot, command, token⟩ := c
    cases command with
    | stop => exact tokens_handled_stop platform a bot token
    | start =>
      cases token with
      | none => rfl
      | some token => exact tokens_handled_start hopens a bot token

theorem tokens_foldl_handled (hopens : platform.Opens) (es : List Envelope) (a : Adapter) :
    (es.foldl (handled platform) a).tokens = es.foldl Sessions.after a.tokens := by
  induction es generalizing a with
  | nil => rfl
  | cons e rest ih => rw [List.foldl_cons, List.foldl_cons, ih, tokens_handled hopens]

end Adapter

end ScriptedChat
