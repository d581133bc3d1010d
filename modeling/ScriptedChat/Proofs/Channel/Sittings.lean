import ScriptedChat.Proofs.Channel.Handlings

/-!
The calls that are made for each bot. They come in sittings: a session that the platform refused to
open, or one that it opened, with what was sent through it and the call that closed it. All calls
are looked at together with the envelopes that they were made for, because what is sent does not
name its bot.
-/
namespace ScriptedChat

/-- A message if it is one of a bot. -/
def Envelope.messageOf? (bot : String) : Envelope → Option OutboundMessage
  | .message m => if m.bot = bot then some m else none
  | .lifecycle _ => none

/-- A session that is open: the credential that it was opened with, and the messages that were sent
through it, each with whether the platform agreed. -/
structure Stay where
  token : String
  sent : List (OutboundMessage × Bool)

/-- What comes of asking for a session: it is refused, or it is held until it is closed, whether or
not the platform agrees to that. -/
inductive Sitting
  | refused (token : String)
  | held (stay : Stay) (agreed : Bool)

namespace Stay

def dealings (bot : String) (s : Stay) : List Dealing :=
  ⟨.openSession bot s.token, true⟩ ::
    s.sent.map fun (m, agreed) => ⟨.send s.token m.user m.text m.buttons, agreed⟩

def messages (s : Stay) : List OutboundMessage := s.sent.map Prod.fst

end Stay

namespace Sitting

def dealings (bot : String) : Sitting → List Dealing
  | .refused token => [⟨.openSession bot token, false⟩]
  | .held stay agreed => stay.dealings bot ++ [⟨.closeSession bot, agreed⟩]

def messages : Sitting → List OutboundMessage
  | .refused _ => []
  | .held stay _ => stay.messages

end Sitting

/-- The past sittings of a bot and the session that is open, if there is one. -/
structure Attendance where
  past : List Sitting
  current : Option Stay

namespace Attendance

def dealings (bot : String) (r : Attendance) : List Dealing :=
  r.past.flatMap (Sitting.dealings bot) ++ r.current.toList.flatMap (Stay.dealings bot)

def messages (r : Attendance) : List OutboundMessage :=
  r.past.flatMap Sitting.messages ++ r.current.toList.flatMap Stay.messages

variable {a b : Adapter} {bot : String} {r : Attendance} {e : Envelope} {ds : List Dealing}

theorem step_of_ne (hr : a.tokens bot = r.current.map Stay.token) (h : a.Handles e ds b)
    (hne : e.bot ≠ bot) :
    r.dealings bot = r.dealings bot ++ (if e.bot = bot then ds else []) ∧
      r.messages.Sublist (r.messages ++ (e.messageOf? bot).toList) ∧
      b.tokens bot = r.current.map Stay.token := by
  refine ⟨?_, List.sublist_append_left _ _, ?_⟩
  · rw [if_neg hne, List.append_nil]
  · rw [Adapter.tokens, h.runner_of_ne hne, ← hr, Adapter.tokens]

theorem current_of_idle (hr : a.tokens bot = r.current.map Stay.token)
    (hidle : a.runners.get? bot = none) : r.current = none := by
  rw [Adapter.tokens, hidle, Option.map_none] at hr
  exact Option.map_eq_none_iff.1 hr.symm

theorem current_of_running {runner : Runner} (hr : a.tokens bot = r.current.map Stay.token)
    (hrunner : a.runners.get? bot = some runner) :
    ∃ stay, r.current = some stay ∧ stay.token = runner.token := by
  rw [Adapter.tokens, hrunner, Option.map_some] at hr
  exact Option.map_eq_some_iff.1 hr.symm

/-- One handling continues the sittings of every bot. -/
theorem step (hr : a.tokens bot = r.current.map Stay.token) (h : a.Handles e ds b) :
    ∃ next : Attendance,
      next.dealings bot = r.dealings bot ++ (if e.bot = bot then ds else []) ∧
      next.messages.Sublist (r.messages ++ (e.messageOf? bot).toList) ∧
      b.tokens bot = next.current.map Stay.token := by
  -- Only an envelope of the bot itself changes anything for it.
  by_cases hbot : e.bot = bot
  case neg => exact ⟨r, step_of_ne hr h hbot⟩
  subst hbot
  rw [if_pos rfl]
  cases h with
  | nothing e =>
    exact ⟨r, (List.append_nil _).symm, List.sublist_append_left _ _, hr⟩
  | sent m agreed hrunner =>
    obtain ⟨stay, hcurrent, htoken⟩ := current_of_running hr hrunner
    refine ⟨⟨r.past, some ⟨stay.token, stay.sent ++ [(m, agreed)]⟩⟩, ?_, ?_, ?_⟩
    · simp [dealings, Stay.dealings, hcurrent, htoken]
    · simp [messages, Stay.messages, Envelope.messageOf?, Envelope.bot, hcurrent]
    · simp [Adapter.tokens, Envelope.bot, hrunner, htoken]
  | refused name token hidle =>
    have hcurrent := current_of_idle hr hidle
    refine ⟨⟨r.past ++ [.refused token], none⟩, ?_, ?_, ?_⟩
    · simp [dealings, Sitting.dealings, Envelope.bot, hcurrent]
    · simp [messages, Sitting.messages, Envelope.messageOf?, hcurrent]
    · simp [Adapter.tokens, Envelope.bot, hidle]
  | opened name token hidle =>
    have hcurrent := current_of_idle hr hidle
    refine ⟨⟨r.past, some ⟨token, []⟩⟩, ?_, ?_, ?_⟩
    · simp [dealings, Stay.dealings, Envelope.bot, hcurrent]
    · simp [messages, Stay.messages, Envelope.messageOf?, hcurrent]
    · have hnew := Table.get?_insert_self a.runners ⟨name, token, a.sessions.length⟩
      exact congrArg (Option.map Runner.token) hnew
  | closed name token agreed hrunner =>
    obtain ⟨stay, hcurrent, _⟩ := current_of_running hr hrunner
    refine ⟨⟨r.past ++ [.held stay agreed], none⟩, ?_, ?_, ?_⟩
    · simp [dealings, Sitting.dealings, Envelope.bot, hcurrent]
    · simp [messages, Sitting.messages, Envelope.messageOf?, hcurrent]
    · simp [Adapter.tokens, Envelope.bot]

end Attendance

end ScriptedChat
