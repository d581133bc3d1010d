import ScriptedChat.Proofs.Channel.Sessions

/-!
What an adapter does with messages. It is looked at each envelope together with the adapter as it
was when the envelope was handled; an envelope leads to one call to the platform at most. The
platform is sent the messages whose bots had a session at that moment, and no others, in the order
in which they were handled. What follows on a message is the same whether it was sent or not, so
that no message depends on another one; only a platform that looks at the messages to decide about
sessions could tell.
-/
namespace ScriptedChat

open ScriptedChat.Action

def Call.isSend : Call → Bool
  | .openSession _ _ => false
  | .closeSession _ => false
  | .send _ _ _ _ => true

/-- An envelope and the adapter that handles it. -/
structure Handling where
  before : Adapter
  envelope : Envelope

/-- A call and whether the platform agreed to it. -/
structure Dealing where
  call : Call
  agreed : Bool
  deriving DecidableEq

namespace Handling

/-- The call that a message comes to when it is handled. -/
def sending (h : Handling) : Option Call :=
  match h.envelope with
  | .message m => h.before.sending m
  | .lifecycle _ => none

/-- The calls that the envelope led to. -/
def calls (platform : Platform) (h : Handling) : List Call :=
  (h.before.handled platform h.envelope).calls.drop h.before.calls.length

def dealings (platform : Platform) (h : Handling) : List Dealing :=
  (h.calls platform).map fun c => ⟨c, (platform.refusal? h.before.calls c).isNone⟩

end Handling

/-- What an envelope makes of an adapter, and the dealings that it takes. A message for a bot that
does not run, a start that carries no token or finds a session, and a stop that finds none lead to
nothing. -/
inductive Adapter.Handles (a : Adapter) : Envelope → List Dealing → Adapter → Prop
  | nothing (e : Envelope) : Handles a e [] a
  | sent (m : OutboundMessage) (agreed : Bool) {runner : Runner}
      (hrunner : a.runners.get? m.bot = some runner) :
      Handles a (.message m) [⟨.send runner.token m.user m.text m.buttons, agreed⟩]
        { a with calls := a.calls ++ [.send runner.token m.user m.text m.buttons] }
  | refused (bot token : String) (hidle : a.runners.get? bot = none) :
      Handles a (.lifecycle ⟨bot, .start, some token⟩) [⟨.openSession bot token, false⟩]
        { a with
          calls := a.calls ++ [.openSession bot token]
          sessions := a.sessions ++ [⟨bot, a.shutDown⟩] }
  | opened (bot token : String) (hidle : a.runners.get? bot = none) :
      Handles a (.lifecycle ⟨bot, .start, some token⟩) [⟨.openSession bot token, true⟩]
        { a with
          runners := a.runners.insert ⟨bot, token, a.sessions.length⟩
          calls := a.calls ++ [.openSession bot token]
          sessions := a.sessions ++ [⟨bot, a.shutDown⟩] }
  | closed (bot : String) (token : Option String) (agreed : Bool) {runner : Runner}
      (hrunner : a.runners.get? bot = some runner) :
      Handles a (.lifecycle ⟨bot, .stop, token⟩) [⟨.closeSession bot, agreed⟩]
        { a with
          runners := a.runners.erase bot
          calls := a.calls ++ [.closeSession bot]
          sessions := a.sessions.modify runner.session fun s => { s with cancelled := true } }

namespace Adapter

variable {platform : Platform} {a b : Adapter} {bot token : String} {e : Envelope}
  {ds : List Dealing}

/-- How envelopes are handled one after the other. -/
def handlings (platform : Platform) : Adapter → List Envelope → List Handling
  | _, [] => []
  | a, e :: rest => ⟨a, e⟩ :: handlings platform (a.handled platform e) rest

@[simp]
theorem handlings_envelopes (platform : Platform) (a : Adapter) (es : List Envelope) :
    (handlings platform a es).map Handling.envelope = es := by
  induction es generalizing a with
  | nil => rfl
  | cons e rest ih => simp [handlings, ih]

theorem handlings_append (platform : Platform) (a : Adapter) (es more : List Envelope) :
    handlings platform a (es ++ more) =
      handlings platform a es ++ handlings platform (es.foldl (handled platform) a) more := by
  induction es generalizing a with
  | nil => rfl
  | cons e rest ih => simp [handlings, ih]

theorem sending_isSome (a : Adapter) (m : OutboundMessage) :
    (a.sending m).isSome = a.isRunning m.bot := by
  rw [sending, Option.isSome_map, isRunning, Table.contains]

theorem sending_isSend {m : OutboundMessage} {c : Call} (h : a.sending m = some c) :
    c.isSend = true := by
  obtain ⟨runner, _, rfl⟩ := Option.map_eq_some_iff.1 h
  rfl

/-- The dealings of a handling, read off the adapter that it leaves. -/
theorem dealings_of_handled {after : Adapter} {cs : List Call}
    (h : a.handled platform e = after) (hcalls : after.calls = a.calls ++ cs) :
    Handling.dealings platform ⟨a, e⟩ =
      cs.map fun c => ⟨c, (platform.refusal? a.calls c).isNone⟩ := by
  rw [Handling.dealings, Handling.calls, h, hcalls, List.drop_left]

theorem handles_nothing (h : a.handled platform e = a) :
    a.Handles e (Handling.dealings platform ⟨a, e⟩) (a.handled platform e) := by
  rw [dealings_of_handled h (List.append_nil _).symm, h]
  exact .nothing e

theorem handles_message (platform : Platform) (a : Adapter) (m : OutboundMessage) :
    a.Handles (.message m) (Handling.dealings platform ⟨a, .message m⟩)
      (a.handled platform (.message m)) := by
  have hhandled := handled_message platform a m
  cases hrunner : a.runners.get? m.bot with
  | none =>
    apply handles_nothing
    simp [hhandled, sending, hrunner]
  | some runner =>
    rw [sending, hrunner] at hhandled
    rw [dealings_of_handled hhandled rfl, hhandled]
    exact .sent m _ hrunner

theorem handles_start (platform : Platform) (a : Adapter) (bot token : String) :
    a.Handles (.lifecycle ⟨bot, .start, some token⟩)
      (Handling.dealings platform ⟨a, .lifecycle ⟨bot, .start, some token⟩⟩)
      (a.handled platform (.lifecycle ⟨bot, .start, some token⟩)) := by
  cases hrunner : a.runners.get? bot with
  | some runner => exact handles_nothing (handled_start_of_running platform token hrunner)
  | none =>
    cases hrefusal : platform.refusal? a.calls (.openSession bot token) with
    | none =>
      have hhandled := handled_start_of_agreed hrunner hrefusal
      rw [dealings_of_handled hhandled rfl, hhandled, List.map_singleton, hrefusal]
      exact .opened bot token hrunner
    | some reason =>
      have hhandled := handled_start_of_refused hrunner hrefusal
      rw [dealings_of_handled hhandled rfl, hhandled, List.map_singleton, hrefusal]
      exact .refused bot token hrunner

theorem handles_stop (platform : Platform) (a : Adapter) (bot : String) (token : Option String) :
    a.Handles (.lifecycle ⟨bot, .stop, token⟩)
      (Handling.dealings platform ⟨a, .lifecycle ⟨bot, .stop, token⟩⟩)
      (a.handled platform (.lifecycle ⟨bot, .stop, token⟩)) := by
  cases hrunner : a.runners.get? bot with
  | none => exact handles_nothing (handled_stop_of_idle platform token hrunner)
  | some runner =>
    have hhandled := handled_stop_of_running platform token hrunner
    rw [dealings_of_handled hhandled rfl, hhandled]
    exact .closed bot token _ hrunner

theorem handles (platform : Platform) (a : Adapter) (e : Envelope) :
    a.Handles e (Handling.dealings platform ⟨a, e⟩) (a.handled platform e) := by
  cases e with
  | message m => exact handles_message platform a m
  | lifecycle c =>
    obtain ⟨bot, command, token⟩ := c
    cases command with
    | stop => exact handles_stop platform a bot token
    | start =>
      cases token with
      | none => exact handles_nothing rfl
      | some token => exact handles_start platform a bot token

namespace Handles

/-- All calls are accounted for. -/
theorem calls (h : a.Handles e ds b) : b.calls = a.calls ++ ds.map Dealing.call := by
  cases h with
  | nothing e => exact (List.append_nil _).symm
  | sent m agreed hrunner => rfl
  | refused bot token hidle => rfl
  | opened bot token hidle => rfl
  | closed bot token agreed hrunner => rfl

/-- The session of a bot is not touched by the envelopes of other bots. -/
theorem runner_of_ne (h : a.Handles e ds b) (hne : e.bot ≠ bot) :
    b.runners.get? bot = a.runners.get? bot := by
  cases h with
  | nothing e => rfl
  | sent m agreed hrunner => rfl
  | refused name token hidle => rfl
  | opened name token hidle => exact Table.get?_insert_of_ne _ hne
  | closed name token agreed hrunner => exact Table.get?_erase_of_ne _ hne

/-- An order to sessions sends nothing. -/
theorem quiet {c : LifecycleCommand} (h : a.Handles (.lifecycle c) ds b) :
    ∀ d ∈ ds, d.call.isSend = false := by
  cases h with
  | nothing e => simp
  | refused bot token hidle => simp [Call.isSend]
  | opened bot token hidle => simp [Call.isSend]
  | closed bot token agreed hrunner => simp [Call.isSend]

end Handles

theorem calls_handled_lifecycle (platform : Platform) (a : Adapter) (c : LifecycleCommand) :
    ∃ calls, (a.handled platform (.lifecycle c)).calls = a.calls ++ calls ∧
      ∀ call ∈ calls, call.isSend = false := by
  have hstep := a.handles platform (.lifecycle c)
  refine ⟨_, hstep.calls, ?_⟩
  intro call hcall
  obtain ⟨d, hd, rfl⟩ := List.mem_map.1 hcall
  exact hstep.quiet d hd

/-- The messages that the platform is sent are those that were handled while their bots had a
session. -/
theorem sends_foldl_handled (platform : Platform) (es : List Envelope) (a : Adapter) :
    (es.foldl (handled platform) a).calls.filter Call.isSend =
      a.calls.filter Call.isSend ++ (handlings platform a es).filterMap Handling.sending := by
  induction es generalizing a with
  | nil => simp [handlings]
  | cons e rest ih =>
    rw [List.foldl_cons, ih, handlings]
    cases e with
    | message m =>
      cases hsending : a.sending m with
      | none => simp [handled_message, Handling.sending, hsending]
      | some c => simp [handled_message, Handling.sending, hsending, sending_isSend hsending]
    | lifecycle c =>
      obtain ⟨calls, hcalls, hquiet⟩ := calls_handled_lifecycle platform a c
      have hnone : calls.filter Call.isSend = [] := by
        simpa [List.filter_eq_nil_iff] using hquiet
      have hsending : Handling.sending ⟨a, .lifecycle c⟩ = none := rfl
      rw [hcalls, List.filter_append, hnone, List.append_nil, List.filterMap_cons_none hsending]

end Adapter

/-- A platform that decides about sessions without looking at the messages it was sent. -/
def Platform.Impartial (platform : Platform) : Prop :=
  ∀ calls others bot token,
    calls.filter (!Call.isSend ·) = others.filter (!Call.isSend ·) →
      platform.refusal? calls (.openSession bot token) =
        platform.refusal? others (.openSession bot token)

/-- Adapters that differ at most in the messages that they sent. -/
structure Adapter.Alike (a b : Adapter) : Prop where
  runners : a.runners = b.runners
  sessions : a.sessions = b.sessions
  shutDown : a.shutDown = b.shutDown
  calls : a.calls.filter (!Call.isSend ·) = b.calls.filter (!Call.isSend ·)

namespace Adapter.Alike

variable {platform : Platform} {a b : Adapter}

theorem sending (h : a.Alike b) (m : OutboundMessage) : a.sending m = b.sending m := by
  rw [Adapter.sending, Adapter.sending, h.runners]

/-- A message makes no difference. -/
theorem after_message (platform : Platform) (a : Adapter) (m : OutboundMessage) :
    (a.handled platform (.message m)).Alike a := by
  rw [handled_message]
  refine ⟨rfl, rfl, rfl, ?_⟩
  cases hsending : a.sending m with
  | none => simp
  | some c => simp [sending_isSend hsending]

theorem trans {c : Adapter} (h : a.Alike b) (h' : b.Alike c) : a.Alike c :=
  ⟨h.runners.trans h'.runners, h.sessions.trans h'.sessions, h.shutDown.trans h'.shutDown,
    h.calls.trans h'.calls⟩

theorem symm (h : a.Alike b) : b.Alike a :=
  ⟨h.runners.symm, h.sessions.symm, h.shutDown.symm, h.calls.symm⟩

theorem handled_start (himpartial : platform.Impartial) (h : a.Alike b) (bot token : String) :
    (a.handled platform (.lifecycle ⟨bot, .start, some token⟩)).Alike
      (b.handled platform (.lifecycle ⟨bot, .start, some token⟩)) := by
  cases hrunner : a.runners.get? bot with
  | some runner =>
    have hrunner' : b.runners.get? bot = some runner := by rw [← h.runners, hrunner]
    rw [handled_start_of_running platform token hrunner,
      handled_start_of_running platform token hrunner']
    exact h
  | none =>
    have hrunner' : b.runners.get? bot = none := by rw [← h.runners, hrunner]
    have hsame := himpartial a.calls b.calls bot token h.calls
    cases hrefusal : platform.refusal? a.calls (.openSession bot token) with
    | none =>
      rw [handled_start_of_agreed hrunner hrefusal,
        handled_start_of_agreed hrunner' (hsame.symm.trans hrefusal)]
      constructor <;> simp [h.runners, h.sessions, h.shutDown, h.calls]
    | some reason =>
      rw [handled_start_of_refused hrunner hrefusal,
        handled_start_of_refused hrunner' (hsame.symm.trans hrefusal)]
      constructor <;> simp [h.runners, h.sessions, h.shutDown, h.calls]

theorem handled_stop (platform : Platform) (h : a.Alike b) (bot : String)
    (token : Option String) :
    (a.handled platform (.lifecycle ⟨bot, .stop, token⟩)).Alike
      (b.handled platform (.lifecycle ⟨bot, .stop, token⟩)) := by
  cases hrunner : a.runners.get? bot with
  | none =>
    have hrunner' : b.runners.get? bot = none := by rw [← h.runners, hrunner]
    rw [handled_stop_of_idle platform token hrunner, handled_stop_of_idle platform token hrunner']
    exact h
  | some runner =>
    have hrunner' : b.runners.get? bot = some runner := by rw [← h.runners, hrunner]
    rw [handled_stop_of_running platform token hrunner,
      handled_stop_of_running platform token hrunner']
    constructor <;> simp [h.runners, h.sessions, h.shutDown, h.calls]

theorem handled (himpartial : platform.Impartial) (h : a.Alike b) (e : Envelope) :
    (a.handled platform e).Alike (b.handled platform e) := by
  cases e with
  | message m =>
    exact ((after_message platform a m).trans h).trans (after_message platform b m).symm
  | lifecycle c =>
    obtain ⟨bot, command, token⟩ := c
    cases command with
    | stop => exact h.handled_stop platform bot token
    | start =>
      cases token with
      | none => exact h
      | some token => exact h.handled_start himpartial bot token

/-- Alike adapters send the same messages from then on. -/
theorem sendings (himpartial : platform.Impartial) (h : a.Alike b) (es : List Envelope) :
    (handlings platform a es).filterMap Handling.sending =
      (handlings platform b es).filterMap Handling.sending := by
  induction es generalizing a b with
  | nil => rfl
  | cons e rest ih =>
    have hfirst : Handling.sending ⟨a, e⟩ = Handling.sending ⟨b, e⟩ := by
      cases e with
      | message m => exact h.sending m
      | lifecycle c => rfl
    rw [handlings, handlings, List.filterMap_cons, List.filterMap_cons, hfirst,
      ih (h.handled himpartial e)]

end Adapter.Alike

end ScriptedChat
