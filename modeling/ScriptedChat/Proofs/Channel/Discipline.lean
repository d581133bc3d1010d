import Mathlib.Data.List.Induction
import ScriptedChat.Bus.Queue
import ScriptedChat.Proofs.Channel.Rounds
import ScriptedChat.Proofs.Channel.Sittings

/-!
The discipline of an adapter. Whatever a bus hands out and whatever the platform agrees to, the
calls for each bot are sittings, a session is opened only by a start with a credential for a bot
that has none, and every session that was opened is cancelled once its bot does not run any more.
At the end of a run no bot does. In which order the last sessions are stopped is of no account.
-/
namespace ScriptedChat

/-- The dealings for a bot. -/
def dealingsFor (platform : Platform) (bot : String) (hs : List Handling) : List Dealing :=
  (hs.filter fun h => h.envelope.bot = bot).flatMap (Handling.dealings platform)

/-- The messages of a bot among the envelopes that were handled. -/
def messagesFor (bot : String) (hs : List Handling) : List OutboundMessage :=
  hs.filterMap fun h => h.envelope.messageOf? bot

/-- The bot of a session that the platform was asked for, and whether it agreed. -/
def Dealing.opening? : Dealing → Option (String × Bool)
  | ⟨.openSession bot _, agreed⟩ => some (bot, agreed)
  | ⟨.closeSession _, _⟩ => none
  | ⟨.send _ _ _ _, _⟩ => none

/-- The sessions that the platform was asked for, in their order. -/
def openings (platform : Platform) (hs : List Handling) : List (String × Bool) :=
  (hs.flatMap (Handling.dealings platform)).filterMap Dealing.opening?

theorem Session.map_bot_cancel (l : List Session) (i : Nat) :
    (l.modify i fun s => { s with cancelled := true }).map Session.bot = l.map Session.bot := by
  apply List.ext_getElem?
  intro j
  rw [List.getElem?_map, List.getElem?_map, List.getElem?_modify]
  cases l[j]? with
  | none => rfl
  | some s => by_cases hij : i = j <;> simp [hij]

namespace Adapter

variable {platform : Platform} {a b : Adapter} {hs : List Handling} {e : Envelope}
  {ds : List Dealing} {l : List (String × Bool)}

namespace Handles

/-- A session is opened only by a start that carries a credential, for a bot that has none. -/
theorem opening {bot token : String} (h : a.Handles e ds b)
    (hopen : Call.openSession bot token ∈ ds.map Dealing.call) :
    e = .lifecycle ⟨bot, .start, some token⟩ ∧ a.isRunning bot = false := by
  cases h with
  | nothing e => simp at hopen
  | sent m agreed hrunner => simp at hopen
  | refused name other hidle =>
    obtain ⟨rfl, rfl⟩ : bot = name ∧ token = other := by simpa using hopen
    exact ⟨rfl, isRunning_of_none hidle⟩
  | opened name other hidle =>
    obtain ⟨rfl, rfl⟩ : bot = name ∧ token = other := by simpa using hopen
    exact ⟨rfl, isRunning_of_none hidle⟩
  | closed name other agreed hrunner => simp at hopen

theorem sessions (h : a.Handles e ds b) :
    b.sessions.map Session.bot =
      a.sessions.map Session.bot ++ (ds.filterMap Dealing.opening?).map Prod.fst := by
  cases h with
  | nothing e => exact (List.append_nil _).symm
  | sent m agreed hrunner => exact (List.append_nil _).symm
  | refused bot token hidle => exact List.map_append
  | opened bot token hidle => exact List.map_append
  | closed bot token agreed hrunner =>
    exact (Session.map_bot_cancel _ _).trans (List.append_nil _).symm

end Handles

/-- Each session that was opened runs or is cancelled. -/
def Settles (a : Adapter) (l : List (String × Bool)) : Prop :=
  ∀ (i : Nat) (bot : String), l[i]? = some (bot, true) →
    (∃ runner, a.runners.get? bot = some runner ∧ runner.session = i) ∨
      a.sessions[i]? = some ⟨bot, true⟩

namespace Settles

/-- A session that is asked for is put behind the others. -/
theorem of_append {s : Session} {opening : String × Bool} (h : a.Settles l)
    (hlength : a.sessions.length = l.length)
    (hsessions : b.sessions = a.sessions ++ [s])
    (hkept : ∀ bot runner, a.runners.get? bot = some runner → b.runners.get? bot = some runner)
    (hnew : opening.2 = true → ∃ runner, b.runners.get? opening.1 = some runner ∧
      runner.session = l.length) :
    b.Settles (l ++ [opening]) := by
  intro i bot hi
  -- The index is that of an earlier session or that of the new one.
  rcases Nat.lt_or_ge i l.length with hlt | hge
  · rw [List.getElem?_append_left hlt] at hi
    rcases h i bot hi with ⟨runner, hrunner, hsession⟩ | hcancelled
    · exact Or.inl ⟨runner, hkept bot runner hrunner, hsession⟩
    · right
      rw [hsessions, List.getElem?_append_left (hlength ▸ hlt), hcancelled]
  · obtain ⟨hindex, hopening⟩ : i = l.length ∧ opening = (bot, true) := by
      rw [List.getElem?_append_right hge, List.getElem?_singleton] at hi
      split at hi
      · exact ⟨by omega, Option.some.inj hi⟩
      · cases hi
    subst hopening hindex
    exact Or.inl (hnew rfl)

/-- A session that is closed is cancelled, and the others are left as they are. -/
theorem of_close {bot : String} {runner : Runner} (h : a.Settles l)
    (hasked : a.sessions.map Session.bot = l.map Prod.fst)
    (hrunner : a.runners.get? bot = some runner)
    (hrunners : b.runners = a.runners.erase bot)
    (hsessions : b.sessions =
      a.sessions.modify runner.session fun s => { s with cancelled := true }) :
    b.Settles l := by
  intro i name hi
  rcases h i name hi with ⟨other, hother, hsession⟩ | hcancelled
  · by_cases hname : bot = name
    · -- The session of the bot is known, since the bot once asked for it; so it gets cancelled.
      subst hname
      obtain rfl : runner = other := Option.some.inj (hrunner.symm.trans hother)
      have hbot : (a.sessions[i]?).map Session.bot = some bot := by
        rw [← List.getElem?_map, hasked, List.getElem?_map, hi, Option.map_some]
      obtain ⟨s, hs, hsbot⟩ := Option.map_eq_some_iff.1 hbot
      right
      rw [hsessions, hsession, List.getElem?_modify_eq, hs]
      simp [hsbot]
    · left
      refine ⟨other, ?_, hsession⟩
      rw [hrunners, Table.get?_erase_of_ne _ hname, hother]
  · right
    rw [hsessions, List.getElem?_modify, hcancelled]
    by_cases hi' : runner.session = i <;> simp [hi']

theorem step (h : a.Settles l) (hasked : a.sessions.map Session.bot = l.map Prod.fst)
    (hstep : a.Handles e ds b) : b.Settles (l ++ ds.filterMap Dealing.opening?) := by
  have hlength : a.sessions.length = l.length := by
    rw [← List.length_map (f := Session.bot), hasked, List.length_map]
  cases hstep with
  | nothing e =>
    show Settles _ (l ++ [])
    rw [List.append_nil]
    exact h
  | sent m agreed hrunner =>
    show Settles _ (l ++ [])
    rw [List.append_nil]
    exact h
  | refused bot token hidle =>
    exact h.of_append hlength rfl (fun _ _ hrunner => hrunner) (by simp)
  | opened bot token hidle =>
    refine h.of_append hlength rfl ?_ ?_
    · intro name runner hrunner
      have hne : bot ≠ name := by
        intro hname
        rw [← hname, hidle] at hrunner
        cases hrunner
      exact (Table.get?_insert_of_ne _ hne).trans hrunner
    · intro _
      exact ⟨_, Table.get?_insert_self a.runners ⟨bot, token, a.sessions.length⟩, hlength⟩
  | closed bot token agreed hrunner =>
    show Settles _ (l ++ [])
    rw [List.append_nil]
    exact h.of_close hasked hrunner rfl rfl

end Settles

/-- How the calls and the sessions of an adapter come from the envelopes that it handled. -/
structure Booked (platform : Platform) (hs : List Handling) (a : Adapter) : Prop where
  calls : a.calls = hs.flatMap (Handling.calls platform)
  opens : ∀ h ∈ hs, ∀ bot token, Call.openSession bot token ∈ h.calls platform →
    h.envelope = .lifecycle ⟨bot, .start, some token⟩ ∧ h.before.isRunning bot = false
  sessions : a.sessions.map Session.bot = (openings platform hs).map Prod.fst

/-- What is kept to while envelopes are handled. -/
structure Orderly (platform : Platform) (hs : List Handling) (a : Adapter) : Prop
    extends Booked platform hs a where
  attended : ∀ bot, ∃ r : Attendance, dealingsFor platform bot hs = r.dealings bot ∧
    r.messages.Sublist (messagesFor bot hs) ∧ a.tokens bot = r.current.map Stay.token
  settles : a.Settles (openings platform hs)

/-- What was kept to when no bot runs any more. -/
structure Disciplined (platform : Platform) (hs : List Handling) (a : Adapter) : Prop
    extends Booked platform hs a where
  sittings : ∀ bot, ∃ sittings : List Sitting,
    dealingsFor platform bot hs = sittings.flatMap (Sitting.dealings bot) ∧
    (sittings.flatMap Sitting.messages).Sublist (messagesFor bot hs)
  idle : ∀ bot, a.isRunning bot = false
  cancelled : ∀ (i : Nat) (bot : String), (openings platform hs)[i]? = some (bot, true) →
    a.sessions[i]? = some ⟨bot, true⟩

theorem openings_concat (platform : Platform) (hs : List Handling) (h : Handling) :
    openings platform (hs ++ [h]) =
      openings platform hs ++ (h.dealings platform).filterMap Dealing.opening? := by
  simp [openings]

theorem dealingsFor_concat (platform : Platform) (bot : String) (hs : List Handling)
    (h : Handling) :
    dealingsFor platform bot (hs ++ [h]) =
      dealingsFor platform bot hs ++
        (if h.envelope.bot = bot then h.dealings platform else []) := by
  by_cases hbot : h.envelope.bot = bot <;> simp [dealingsFor, hbot]

theorem messagesFor_concat (bot : String) (hs : List Handling) (h : Handling) :
    messagesFor bot (hs ++ [h]) = messagesFor bot hs ++ (h.envelope.messageOf? bot).toList := by
  cases hmessage : h.envelope.messageOf? bot <;> simp [messagesFor, hmessage]

theorem Booked.concat (h : a.Booked platform hs) (e : Envelope) :
    (a.handled platform e).Booked platform (hs ++ [⟨a, e⟩]) := by
  have hstep := a.handles platform e
  have hcalls : (Handling.dealings platform ⟨a, e⟩).map Dealing.call =
      Handling.calls platform ⟨a, e⟩ := by
    simp [Handling.dealings, Function.comp_def]
  constructor
  · rw [hstep.calls, hcalls, h.calls, List.flatMap_append, List.flatMap_singleton]
  · intro x hx bot token hopen
    rcases List.mem_append.1 hx with hx | hx
    · exact h.opens x hx bot token hopen
    · obtain rfl := List.mem_singleton.1 hx
      exact hstep.opening (hcalls ▸ hopen)
  · rw [hstep.sessions, h.sessions, openings_concat, List.map_append]

theorem Orderly.concat (h : a.Orderly platform hs) (e : Envelope) :
    (a.handled platform e).Orderly platform (hs ++ [⟨a, e⟩]) where
  toBooked := h.toBooked.concat e
  attended bot := by
    obtain ⟨r, hdealings, hmessages, hr⟩ := h.attended bot
    obtain ⟨next, hnext, hsublist, hr'⟩ := Attendance.step hr (a.handles platform e)
    refine ⟨next, ?_, ?_, hr'⟩
    · rw [dealingsFor_concat, hdealings, hnext]
    · rw [messagesFor_concat]
      exact hsublist.trans (hmessages.append (List.Sublist.refl _))
  settles := by
    rw [openings_concat]
    exact h.settles.step h.sessions (a.handles platform e)

/-- An adapter that has done nothing yet. -/
theorem orderly_fresh (platform : Platform) (shutDown : Bool) :
    Orderly platform [] { shutDown := shutDown } where
  calls := rfl
  opens := by simp
  sessions := rfl
  attended bot := ⟨⟨[], none⟩, rfl, List.Sublist.refl _, rfl⟩
  settles := by
    intro i bot hi
    cases hi

theorem orderly_foldl (platform : Platform) (shutDown : Bool) (es : List Envelope) :
    (es.foldl (handled platform) { shutDown := shutDown }).Orderly platform
      (handlings platform { shutDown := shutDown } es) := by
  induction es using List.reverseRecOn with
  | nil => exact orderly_fresh platform shutDown
  | append_singleton es e ih =>
    rw [List.foldl_append, handlings_append]
    exact ih.concat e

/-- Once no bot runs, every sitting is over and every session that was opened is cancelled. -/
theorem Orderly.disciplined (h : a.Orderly platform hs) (hidle : ∀ bot, a.isRunning bot = false) :
    a.Disciplined platform hs where
  toBooked := h.toBooked
  idle := hidle
  sittings bot := by
    obtain ⟨r, hdealings, hmessages, hr⟩ := h.attended bot
    have hcurrent : r.current = none := by
      apply Attendance.current_of_idle hr
      simpa [isRunning, Table.contains] using hidle bot
    rw [Attendance.messages, hcurrent, Option.toList_none, List.flatMap_nil, List.append_nil]
      at hmessages
    rw [Attendance.dealings, hcurrent, Option.toList_none, List.flatMap_nil, List.append_nil]
      at hdealings
    exact ⟨r.past, hdealings, hmessages⟩
  cancelled i bot hi := by
    rcases h.settles i bot hi with ⟨runner, hrunner, _⟩ | hcancelled
    · have hquiet := hidle bot
      rw [isRunning_of_some hrunner] at hquiet
      cases hquiet
    · exact hcancelled

theorem tokens_stops (platform : Platform) (bots : List String) (a : Adapter) (name : String) :
    ((bots.map fun bot => .lifecycle ⟨bot, .stop, none⟩).foldl (handled platform) a).tokens name =
      if name ∈ bots then none else a.tokens name := by
  induction bots generalizing a with
  | nil => simp
  | cons bot rest ih =>
    rw [List.map_cons, List.foldl_cons, ih, tokens_handled_stop]
    by_cases hname : bot = name
    · simp [Sessions.after, hname]
    · simp [Sessions.after, hname, Ne.symm hname]

/-- Sessions that are left may be stopped in any order, and the platform may refuse to close them:
if no bot is left out, the discipline was kept to. -/
theorem disciplined_stops (platform : Platform) (shutDown : Bool) (es : List Envelope)
    (bots : List String)
    (hall : ∀ bot, (es.foldl (handled platform) { shutDown := shutDown }).isRunning bot = true →
      bot ∈ bots) :
    let all : List Envelope := es ++ bots.map fun bot => .lifecycle ⟨bot, .stop, none⟩
    (all.foldl (handled platform) { shutDown := shutDown }).Disciplined platform
      (handlings platform { shutDown := shutDown } all) := by
  intro all
  refine (orderly_foldl platform shutDown all).disciplined ?_
  intro bot
  rw [isRunning_eq, List.foldl_append, tokens_stops]
  split
  · rfl
  · rename_i hbot
    rw [← isRunning_eq]
    simpa using fun hrunning => hbot (hall bot hrunning)

end Adapter

namespace Dispatcher

variable {σ : Type}

/-- Every run keeps to the discipline, after however many deliveries it is told to end. It is a
course of rounds, in which each delivery that is taken is handled and then acknowledged once,
whether or not it could be handled, and after a failed acknowledgement nothing more is taken. What
was taken and the stops at the end make up the calls to the platform. -/
theorem run_disciplined (platform : Platform) (subscriber : Subscriber σ) (fuel : Nat) (source : σ)
    (shutDown : Bool) :
    ∃ (c : Course) (last final : Dispatcher σ),
      Path platform subscriber ⟨source, { shutDown := shutDown }⟩ c.deeds last ∧
      (c.ending = .told → c.acknowledged.length = fuel) ∧
      (run platform subscriber fuel).run ⟨source, { shutDown := shutDown }⟩ =
        (c.ending.outcome, final) ∧
      final.source = last.source ∧
      final.adapter.Disciplined platform (Adapter.handlings platform { shutDown := shutDown }
        (c.taken ++ last.adapter.closing)) := by
  obtain ⟨c, last, hrun, hpath, htold⟩ :=
    run_course platform subscriber fuel ⟨source, { shutDown := shutDown }⟩
  have hconsumed : last.adapter =
      c.taken.foldl (Adapter.handled platform) { shutDown := shutDown } := by
    rw [hpath.adapter, c.deeds_envelopes]
  refine ⟨c, last, _, hpath, htold, hrun, rfl, ?_⟩
  apply Adapter.disciplined_stops
  intro bot hrunning
  rw [← hconsumed, Adapter.isRunning, Table.contains] at hrunning
  exact Table.mem_keys_iff.2 hrunning

/-- The platform refuses to open the first session and to close any. One start carries no
credential and another one finds a session, and one message comes too early. -/
example :
    let platform : Platform := ⟨fun calls c =>
      if calls = [] ∨ c.method = "close" then some "refused" else none⟩
    let start (token : Option String) : Envelope := .lifecycle ⟨"b", .start, token⟩
    let message (text : String) : Envelope := .message ⟨"b", 7, text, []⟩
    let waiting := Queue.number 1 [start none, start (some "t"), message "early",
      start (some "t"), start (some "u"), message "one", message "two"]
    let final := ((run platform Queue.subscriber 6).run ⟨{ waiting := waiting }, {}⟩).2
    final.source.waiting = [⟨7, message "two"⟩] ∧
      final.adapter.calls = [.openSession "b" "t", .openSession "b" "t",
        .send "t" 7 "one" [], .closeSession "b"] ∧
      final.adapter.sessions = [⟨"b", false⟩, ⟨"b", true⟩] := by
  decide +kernel

end Dispatcher

end ScriptedChat
