import Mathlib.Data.List.Forall2
import ScriptedChat.Api.Handler
import ScriptedChat.Proofs.Engine.Discretion

/-!
Credentials do not show in the API. Two clients ask the same in the same order, except that they
submit bots with other credentials; none of these is blank, since it does show whether one is. Over
stores that hold the same but for credentials, and a publisher that does not look into payloads,
they get the same responses, whatever they ask for and whether it succeeds or fails. Only how the
maps of bots are laid out may show, by the order in which a list gives bots of one age.
-/
namespace ScriptedChat

open ScriptedChat.Action

theorem Bot.view_of_masked {bot other : Bot} (h : bot.masked = other.masked) :
    bot.view = other.view := by
  show bot.masked.view = other.masked.view
  rw [h]

theorem Bot.views_masked (bots : List Bot) :
    Json.list Bot.view (bots.map masked) = Json.list Bot.view bots := by
  rw [Json.list, Json.list, List.map_map]
  rfl

namespace Api

open ScriptedChat.Engine (inMemory)

/-- Whether a request submits a bot. -/
structure Request.Submits (r : Request) (b : BotBody) : Prop where
  method : r.method = "POST"
  route : Route.ofPath? (Route.pathOf r.target) = some .bots
  body : readBody BotBody.shape.decode r.contentType r.body = .ok b

/-- The same request, except perhaps for the credential of a bot that it submits. -/
inductive Request.SameButToken : Request → Request → Prop
  | same (r : Request) : SameButToken r r
  | submitted (r : Request) (body : List UInt8) (b : BotBody) (token : String)
      (hb : r.Submits b) (hother : Submits { r with body := body } { b with token := token })
      (hfilled : ¬ Text.isBlank b.token) (hfilled' : ¬ Text.isBlank token) :
      SameButToken r { r with body := body }

/-- A request with what the API finds when it comes: how the map of the bots is laid out by then,
its setting, and an identifier for a bot that is submitted without one. -/
structure Visit where
  layout : Memory.Layout
  setting : Setting
  newId : Uuid
  request : Request

/-- Visits for the same, except perhaps for a credential, in which no bot is submitted without an
identifier. The maps of bots may be laid out in different ways. -/
structure Visit.SameButToken (x y : Visit) : Prop where
  setting : x.setting = y.setting
  request : x.request.SameButToken y.request
  named : ∀ b, x.request.Submits b → b.id.isSome

/-- Visits for the same in which no bot is submitted. -/
theorem Visit.SameButToken.of_eq {x y : Visit} (hsetting : x.setting = y.setting)
    (hrequest : x.request = y.request) (hnone : ∀ b, ¬ x.request.Submits b) :
    x.SameButToken y := by
  refine ⟨hsetting, ?_, fun b hb => absurd hb (hnone b)⟩
  rw [← hrequest]
  exact .same _

/-- The same response, except that a list may give bots of one age in another order. -/
inductive Response.Alike : Response → Response → Prop
  | same (response : Response) : Alike response response
  | listed (status : Nat) (bots others : List Bot) (h : Bot.SameUpToAge bots others) :
      Alike (answer status (.list Bot.view bots)) (answer status (.list Bot.view others))

theorem Response.Alike.status {x y : Response} (h : Alike x y) : x.status = y.status := by
  cases h <;> rfl

/-- The responses to visits one after the other, and the world after them. -/
def respondAll {σ : Type} (e : Memory.Layout → Engine σ) : σ → List Visit → List Response × σ
  | s, [] => ([], s)
  | s, visit :: rest =>
    let answered := (respond (e visit.layout) visit.setting visit.newId visit.request).run s
    let later := respondAll e answered.2 rest
    (answered.1 :: later.1, later.2)

section Parts

variable {σ τ α : Type} {tied : σ → τ → Prop}

theorem owner_agrees {r r' : Request} (h : r.owner = r'.owner) :
    Agrees tied (owner r : Handling σ UserId) (owner r') := by
  rw [owner, owner, h]
  cases readOwner r'.owner with
  | error e => exact Agrees.throw (ofError e)
  | ok owner => exact Agrees.pure owner

theorem parameter_agrees (value : Option α) :
    Agrees tied (parameter value : Handling σ α) (parameter value) := by
  cases value with
  | none => exact Agrees.throw (turnedDown 400)
  | some a => exact Agrees.pure a

theorem body_agrees (decode : Decoder α) (r : Request) :
    Agrees tied (body decode r : Handling σ α) (body decode r) := by
  rw [body, body]
  cases readBody decode r.contentType r.body with
  | error rejection => exact Agrees.throw (turnedDown rejection.status)
  | ok a => exact Agrees.pure a

theorem address_agrees (id user : String) :
    Agrees tied (address id user : Handling σ Address) (address id user) :=
  (parameter_agrees _).bind fun _ => (parameter_agrees _).bind fun _ => Agrees.pure _

/-- What follows on the operator and the bot that a request names. -/
theorem bind_owner_bot (r : Request) (id : String) {f : UserId → Uuid → Handling σ α}
    {g : UserId → Uuid → Handling τ α} (h : ∀ owner bot, Agrees tied (f owner bot) (g owner bot)) :
    Agrees tied
      (do
        let owner ← owner r
        let bot ← parameter (botOfSegment? id)
        f owner bot)
      (do
        let owner ← owner r
        let bot ← parameter (botOfSegment? id)
        g owner bot) :=
  (owner_agrees rfl).bind fun owner => (parameter_agrees _).bind fun bot => h owner bot

theorem carryOut_agrees {x : Action σ α} {y : Action τ α} (h : Agrees tied x y)
    (shown : α → Response) :
    Agrees tied (do return shown (← carryOut x)) (do return shown (← carryOut y)) :=
  (h.adapt ofError).bind fun _ => Agrees.pure _

theorem body_of_read {decode : Decoder α} {r : Request} {a : α}
    (h : readBody decode r.contentType r.body = .ok a) :
    (body decode r : Handling σ α) = pure a := by
  rw [body, h]

end Parts

section Serve

variable {π : Type} {publisher : Publisher π} {alike : π → π → Prop}
  {layout layout' : Memory.Layout} {setting : Setting} {newId newId' : Uuid} {r r' : Request}

/-- What shows a bot shows the same of bots that are the same but for their credentials. -/
theorem showBot_agrees (status : Nat) {x y : Action (Memory × π) Bot}
    (h : Agrees (Veil alike) (Bot.masked <$> x) (Bot.masked <$> y)) :
    Agrees (Veil alike) (do return answer status (← carryOut x).view)
      (do return answer status (← carryOut y).view) := by
  apply Agrees.bind_map (h.adapt_map ofError)
  intro bot other hmasked
  rw [Bot.view_of_masked hmasked]
  exact Agrees.pure _

/-- A bot is submitted in the same way whatever its credential, unless that is blank. -/
theorem submit_agrees {b : BotBody} {token : String} (howner : r.owner = r'.owner)
    (hb : readBody BotBody.shape.decode r.contentType r.body = .ok b)
    (hother : readBody BotBody.shape.decode r'.contentType r'.body = .ok { b with token := token })
    (hblank : Text.isBlank b.token = Text.isBlank token) (hid : b.id.isSome) :
    Agrees (Veil alike) (serve (inMemory publisher layout) setting newId r "POST" .bots)
      (serve (inMemory publisher layout') setting newId' r' "POST" .bots) := by
  obtain ⟨id, hid⟩ := Option.isSome_iff_exists.1 hid
  simp only [serve, if_true, body_of_read hb, body_of_read hother, pure_bind, hid,
    Option.getD_some]
  apply (owner_agrees howner).bind
  intro owner
  exact showBot_agrees 201 (Engine.createBot_veiled hblank)

/-- Bots are listed as the stores list them. -/
theorem exec_serve_list {method : String} (hmethod : method ≠ "POST") (m : Memory) (w : π) :
    exec (serve (inMemory publisher layout) setting newId r method .bots) (m, w) =
      ((readOwner r.owner).mapError ofError |>.map fun owner =>
        answer 200 (.list Bot.view (m.ownedBy layout owner)), (m, w)) := by
  simp only [serve, hmethod, if_false, exec_bind]
  cases howner : readOwner r.owner with
  | error e => simp [owner, howner, Except.mapError, Except.map]
  | ok o =>
    simp [owner, howner, Except.mapError, Except.map, carryOut, exec_adapt, Stores.within,
      Memory.stores, exec_act, Memory.exec_botsOfOwner]

/-- The same request is served in the same way, unless it is for a list of bots. -/
theorem serve_agrees (hblind : publisher.Blind alike) (r : Request) (method : String)
    (route : Route) (hbots : route = .bots → method = "POST" ∧ ∀ b,
      readBody BotBody.shape.decode r.contentType r.body = .ok b → b.id.isSome) :
    Agrees (Veil alike) (serve (inMemory publisher layout) setting newId r method route)
      (serve (inMemory publisher layout') setting newId' r method route) := by
  cases route with
  | health => exact Agrees.pure _
  | bots =>
    obtain ⟨rfl, hnamed⟩ := hbots rfl
    cases hb : readBody BotBody.shape.decode r.contentType r.body with
    | error rejection =>
      simp only [serve, if_true, body, hb]
      apply (owner_agrees rfl).bind
      intro owner
      exact Agrees.throw _
    | ok b => exact submit_agrees rfl hb hb rfl (hnamed b hb)
  | bot id =>
    apply bind_owner_bot r id
    intro owner bot
    apply Agrees.ite
    · exact carryOut_agrees (Engine.deleteBot_veiled hblind) _
    · exact showBot_agrees 200 Engine.ownedBot_veiled
  | script id =>
    apply bind_owner_bot r id
    intro owner bot
    apply (body_agrees _ r).bind
    intro b
    exact showBot_agrees 200 (Engine.setScript_veiled b.entries b.blocks)
  | mailings id =>
    apply bind_owner_bot r id
    intro owner bot
    apply (body_agrees _ r).bind
    intro mailing
    exact showBot_agrees 201 (Engine.addMailing_veiled mailing)
  | sendMailing id name =>
    apply bind_owner_bot r id
    intro owner bot
    apply (parameter_agrees _).bind
    intro name
    exact carryOut_agrees (Engine.sendMailing_veiled hblind name) _
  | start id =>
    apply bind_owner_bot r id
    intro owner bot
    exact carryOut_agrees (Engine.startBot_veiled hblind) _
  | stop id =>
    apply bind_owner_bot r id
    intro owner bot
    exact carryOut_agrees (Engine.stopBot_veiled hblind) _
  | answers id =>
    apply bind_owner_bot r id
    intro owner bot
    exact carryOut_agrees Engine.answers_veiled _
  | participant id user =>
    simp only [serve]
    apply (owner_agrees rfl).bind
    intro owner
    apply (address_agrees id user).bind
    intro address
    exact carryOut_agrees (Engine.participant_veiled address) _
  | entry id user =>
    simp only [serve]
    apply (address_agrees id user).bind
    intro address
    apply (body_agrees _ r).bind
    intro key
    exact carryOut_agrees (Engine.enter_veiled hblind address key) _
  | process id user =>
    simp only [serve]
    apply (address_agrees id user).bind
    intro address
    apply (body_agrees _ r).bind
    intro text
    exact carryOut_agrees (Engine.process_veiled hblind address text) _

end Serve

section Respond

variable {π : Type} {publisher : Publisher π} {alike : π → π → Prop}
  {layout layout' : Memory.Layout} {setting : Setting} {newId newId' : Uuid} {r r' : Request}

/-- The method by which a request is served. -/
def Request.served (r : Request) : String := if r.method = "HEAD" then "GET" else r.method

/-- The response that the client gets of what was served. -/
def finish (r : Request) (outcome : Except Response Response) : Response :=
  let response := match outcome with
    | .ok response => response
    | .error response => response
  if r.method = "HEAD" then { response with body := .empty } else response

theorem run_respond {σ : Type} (e : Engine σ) (setting : Setting) (newId : Uuid) (r : Request)
    (s : σ) :
    (respond e setting newId r).run s =
      match Route.ofPath? (Route.pathOf r.target) with
      | none => (⟨404, .empty⟩, s)
      | some route =>
        if route.methods.contains r.served then
          (finish r (exec (serve e setting newId r r.served route) s).1,
            (exec (serve e setting newId r r.served route) s).2)
        else (⟨405, .empty⟩, s) := by
  unfold respond
  cases Route.ofPath? (Route.pathOf r.target) with
  | none => rfl
  | some route =>
    show ((if !route.methods.contains r.served then pure ⟨405, .empty⟩ else _) :
      StateM σ Response).run s = _
    cases hmethod : route.methods.contains r.served with
    | false =>
      simp only [hmethod, Bool.false_eq_true, if_false]
      rfl
    | true =>
      simp only [Bool.not_true, Bool.false_eq_true, if_false, hmethod, if_true, StateT.run_bind]
      have hrun : (serve e setting newId r
          (if r.method = "HEAD" then "GET" else r.method) route).run.run s =
          exec (serve e setting newId r r.served route) s := rfl
      rw [hrun]
      cases exec (serve e setting newId r r.served route) s with
      | mk outcome s' => cases outcome <;> rfl

theorem Response.Alike.finish {x y : Response} (h : Alike x y) (r : Request) :
    Alike (Api.finish r (.ok x)) (Api.finish r (.ok y)) := by
  by_cases hhead : r.method = "HEAD"
  · simp only [Api.finish, hhead, if_true, h.status]
    exact .same _
  · simp only [Api.finish, hhead, if_false]
    exact h

/-- Whether two ways to serve a request come to like responses over worlds that differ in
credentials only, and to the same response if what is `settled` holds. -/
def Request.ServedAlike (r : Request) (settled : Prop) (alike : π → π → Prop)
    (x y : Handling (Memory × π) Response) : Prop :=
  ∀ s t, Veil alike s t →
    Response.Alike (finish r (exec x s).1) (finish r (exec y t).1) ∧
      (settled → (exec x s).1 = (exec y t).1) ∧ Veil alike (exec x s).2 (exec y t).2

theorem Request.ServedAlike.of_agrees {settled : Prop} {x y : Handling (Memory × π) Response}
    (h : Agrees (Veil alike) x y) : r.ServedAlike settled alike x y := by
  intro s t hst
  obtain ⟨hsame, htied⟩ := h s t hst
  rw [hsame]
  exact ⟨.same _, fun _ => rfl, htied⟩

/-- A list of bots is the same but for the order of bots of one age. -/
theorem list_servedAlike {method : String} (hmethod : method ≠ "POST") :
    r.ServedAlike (layout = layout') alike
      (serve (inMemory publisher layout) setting newId r method .bots)
      (serve (inMemory publisher layout') setting newId' r method .bots) := by
  intro s t hst
  obtain ⟨m, w⟩ := s
  obtain ⟨m', w'⟩ := t
  rw [exec_serve_list hmethod, exec_serve_list hmethod]
  cases readOwner r.owner with
  | error e => exact ⟨.same _, fun _ => rfl, hst⟩
  | ok owner =>
    have hmasked := hst.stores.ownedBy layout' owner
    have hsame : Bot.SameUpToAge ((m.ownedBy layout owner).map Bot.masked)
        ((m'.ownedBy layout' owner).map Bot.masked) := by
      rw [← hmasked]
      exact (m.ownedBy_sameUpToAge layout layout' owner).map fun _ => rfl
    refine ⟨?_, ?_, hst⟩
    · refine Response.Alike.finish ?_ r
      show Response.Alike (answer 200 (.list Bot.view (m.ownedBy layout owner)))
        (answer 200 (.list Bot.view (m'.ownedBy layout' owner)))
      rw [← Bot.views_masked (m.ownedBy layout owner), ← Bot.views_masked (m'.ownedBy _ owner)]
      exact .listed 200 _ _ hsame
    · rintro rfl
      rw [Except.mapError, Except.map, ← Bot.views_masked (m.ownedBy layout owner), hmasked,
        Bot.views_masked]
      rfl

/-- Whether two ways to respond give like responses over worlds that differ in credentials only, and
the same response if what is `settled` holds. -/
def SameResponse (settled : Prop) (alike : π → π → Prop) (x y : StateM (Memory × π) Response) :
    Prop :=
  ∀ s t, Veil alike s t → Response.Alike (x.run s).1 (y.run t).1 ∧
    (settled → (x.run s).1 = (y.run t).1) ∧ Veil alike (x.run s).2 (y.run t).2

/-- Requests that are served alike get like responses. -/
theorem respond_agrees {settled : Prop} (hmethod : r.method = r'.method)
    (htarget : r.target = r'.target)
    (hserve : ∀ route, Route.ofPath? (Route.pathOf r.target) = some route →
      r.ServedAlike settled alike (serve (inMemory publisher layout) setting newId r r.served route)
        (serve (inMemory publisher layout') setting newId' r' r.served route)) :
    SameResponse settled alike (respond (inMemory publisher layout) setting newId r)
      (respond (inMemory publisher layout') setting newId' r') := by
  intro s t hst
  have hserved : r'.served = r.served := by rw [Request.served, Request.served, hmethod]
  have hfinish : ∀ outcome, finish r' outcome = finish r outcome := by
    intro outcome
    simp only [finish, hmethod]
  rw [run_respond, run_respond, ← htarget, hserved]
  cases hroute : Route.ofPath? (Route.pathOf r.target) with
  | none => exact ⟨.same _, fun _ => rfl, hst⟩
  | some route =>
    simp only [hfinish]
    split
    · obtain ⟨halike, hsame, htied⟩ := hserve route hroute s t hst
      exact ⟨halike, fun h => by rw [hsame h], htied⟩
    · exact ⟨.same _, fun _ => rfl, hst⟩

/-- A request is only served as a POST if it is one. -/
theorem Request.served_eq_post {r : Request} : r.served = "POST" ↔ r.method = "POST" := by
  unfold Request.served
  split
  · simp [*]
  · rfl

theorem same_agrees (hblind : publisher.Blind alike) (hnamed : ∀ b, r.Submits b → b.id.isSome) :
    SameResponse (layout = layout') alike (respond (inMemory publisher layout) setting newId r)
      (respond (inMemory publisher layout') setting newId' r) := by
  apply respond_agrees rfl rfl
  intro route hroute
  by_cases hlists : route = .bots ∧ r.served ≠ "POST"
  · obtain ⟨rfl, hmethod⟩ := hlists
    exact list_servedAlike hmethod
  · refine .of_agrees (serve_agrees hblind r r.served route ?_)
    intro hbots
    have hmethod : r.served = "POST" := by
      by_contra hother
      exact hlists ⟨hbots, hother⟩
    rw [hbots] at hroute
    exact ⟨hmethod, fun b hb => hnamed b ⟨Request.served_eq_post.1 hmethod, hroute, hb⟩⟩

theorem submitted_agrees {settled : Prop} {b : BotBody} {token : String}
    (howner : r.owner = r'.owner) (htarget : r.target = r'.target) (hb : r.Submits b)
    (hother : r'.Submits { b with token := token })
    (hblank : Text.isBlank b.token = Text.isBlank token) (hid : b.id.isSome) :
    SameResponse settled alike (respond (inMemory publisher layout) setting newId r)
      (respond (inMemory publisher layout') setting newId' r') := by
  apply respond_agrees (hb.method.trans hother.method.symm) htarget
  intro route hroute
  have hbots : route = .bots := Option.some.inj (hroute.symm.trans hb.route)
  rw [hbots, Request.served_eq_post.2 hb.method]
  exact .of_agrees (submit_agrees howner hb.body hother.body hblank hid)

theorem request_agrees (hblind : publisher.Blind alike) (hrequest : r.SameButToken r')
    (hnamed : ∀ b, r.Submits b → b.id.isSome) :
    SameResponse (layout = layout') alike (respond (inMemory publisher layout) setting newId r)
      (respond (inMemory publisher layout') setting newId' r') := by
  cases hrequest with
  | same => exact same_agrees hblind hnamed
  | submitted body b token hb hother hfilled hfilled' =>
    have hblank : Text.isBlank b.token = Text.isBlank token := by
      rw [Bool.not_eq_true] at hfilled hfilled'
      rw [hfilled, hfilled']
    exact submitted_agrees rfl rfl hb hother hblank (hnamed b hb)

/-- Visits that are the same but for credentials get like responses one after the other, the same
ones if the maps of bots are laid out alike, and leave worlds that differ in credentials only. -/
theorem respondAll_agrees (hblind : publisher.Blind alike) {visits visits' : List Visit}
    (hvisits : List.Forall₂ Visit.SameButToken visits visits') {s t : Memory × π}
    (hst : Veil alike s t) :
    let run := respondAll (inMemory publisher) s visits
    let run' := respondAll (inMemory publisher) t visits'
    List.Forall₂ Response.Alike run.1 run'.1 ∧
      (visits.map Visit.layout = visits'.map Visit.layout → run.1 = run'.1) ∧
      Veil alike run.2 run'.2 := by
  induction hvisits generalizing s t with
  | nil => exact ⟨.nil, fun _ => rfl, hst⟩
  | @cons visit visit' rest rest' hvisit _ ih =>
    have hrequest : SameResponse (visit.layout = visit'.layout) alike
        (respond (inMemory publisher visit.layout) visit.setting visit.newId visit.request)
        (respond (inMemory publisher visit'.layout) visit.setting visit'.newId visit'.request) :=
      request_agrees hblind hvisit.request hvisit.named
    obtain ⟨halike, hsame, htied⟩ := hrequest s t hst
    obtain ⟨hlater, hlaterSame, hend⟩ := ih htied
    rw [respondAll, respondAll, ← hvisit.setting]
    refine ⟨.cons halike hlater, ?_, hend⟩
    intro hlayouts
    rw [List.map_cons, List.map_cons, List.cons.injEq] at hlayouts
    dsimp only
    rw [hsame hlayouts.1, hlaterSame hlayouts.2]

/-- Two clients who ask the same but for the credentials of the bots that they submit get the same
responses, in which a list may give bots of one age in different orders. Where both maps of bots
are laid out in the same way whenever they ask, it does not. -/
theorem credentials_hidden (hblind : publisher.Blind alike) {visits visits' : List Visit}
    (hvisits : List.Forall₂ Visit.SameButToken visits visits') {m m' : Memory}
    (hstores : m.SameButTokens m') {w w' : π} (hpublisher : alike w w') :
    let responses := (respondAll (inMemory publisher) (m, w) visits).1
    let responses' := (respondAll (inMemory publisher) (m', w') visits').1
    List.Forall₂ Response.Alike responses responses' ∧
      (visits.map Visit.layout = visits'.map Visit.layout → responses = responses') := by
  have hworlds : Veil alike (m, w) (m', w') := ⟨hstores, hpublisher⟩
  obtain ⟨halike, hsame, _⟩ := respondAll_agrees hblind hvisits hworlds
  exact ⟨halike, hsame⟩

/-- A bot is made with one of two credentials, and cannot be started since the channel is out of
order. It is listed with a bot of its age, by maps that are laid out in opposite ways. -/
theorem credentials_hidden_shop :
    let body (token : String) : List UInt8 :=
      ("\x7b\"bot_id\":\"00000000-0000-0000-0000-000000000001\",\"name\":\"Shop\",\"token\":\"" ++
        token ++ "\",\"entry_points\":[\x7b\"key\":\"in\",\"state\":1\x7d]," ++
        "\"blocks\":[\x7b\"state\":1,\"next_state\":0,\"title\":\"Hi\",\"text\":\"Hello\"," ++
        "\"type\":\"message\"\x7d]\x7d").toUTF8.toList
    let visits (layout : Memory.Layout) (token : String) : List Visit :=
      [⟨"POST", "/api/v1/bots", some "5", some "application/json", body token⟩,
        ⟨"POST", "/api/v1/bots/00000000-0000-0000-0000-000000000001/start", some "5", none, []⟩,
        ⟨"GET", "/api/v1/bots", some "5", none, []⟩].map
          (Visit.mk layout ⟨⟨10⟩, .reject⟩ ⟨9⟩)
    let turned : Memory.Layout := ⟨fun id => if id = ⟨1⟩ then 1 else 0⟩
    let club : Bot := ⟨⟨2⟩, 5, "Club", "green", .stopped, .restore [] [], [], ⟨10⟩, ⟨10⟩⟩
    let bus : Recorder := { failing := [0] }
    let run (layout : Memory.Layout) (token : String) : List Response :=
      (respondAll (inMemory Recorder.publish) (Memory.saveBot {} club, bus)
        (visits layout token)).1
    List.Forall₂ Response.Alike (run .flat "red") (run turned "blue") ∧
      run turned "red" = run turned "blue" ∧
      (run .flat "red").map Response.status = [201, 503, 200] := by
  intro body visits turned club bus run
  have hred : readBody BotBody.shape.decode (some "application/json") (body "red") =
      .ok ⟨some ⟨1⟩, "Shop", "red", [⟨"in", 1⟩], [⟨1, 0, "Hi", "Hello", .message⟩]⟩ := by
    decide +kernel
  have hblue : readBody BotBody.shape.decode (some "application/json") (body "blue") =
      .ok ⟨some ⟨1⟩, "Shop", "blue", [⟨"in", 1⟩], [⟨1, 0, "Hi", "Hello", .message⟩]⟩ := by
    decide +kernel
  have hroute : Route.ofPath? (Route.pathOf "/api/v1/bots") = some .bots := by decide +kernel
  have hstart : Route.ofPath? (Route.pathOf
      "/api/v1/bots/00000000-0000-0000-0000-000000000001/start") ≠ some .bots := by
    decide +kernel
  have hlist : "GET" ≠ "POST" := by decide
  have hvisits (layout : Memory.Layout) :
      List.Forall₂ Visit.SameButToken (visits layout "red") (visits turned "blue") := by
    refine .cons ?_ (.cons (.of_eq rfl rfl fun b hb => hstart hb.route)
      (.cons (.of_eq rfl rfl fun b hb => hlist hb.method) .nil))
    exact ⟨rfl, .submitted _ (body "blue") _ "blue" ⟨rfl, hroute, hred⟩ ⟨rfl, hroute, hblue⟩
      (by decide +kernel) (by decide +kernel),
      fun b hb => by rw [← Except.ok.inj (hred.symm.trans hb.body)]; rfl⟩
  have hbus : bus.down = bus.down ∧ bus.failing = bus.failing := ⟨rfl, rfl⟩
  have hflat : List.Forall₂ Response.Alike (run .flat "red") (run turned "blue") :=
    (credentials_hidden Recorder.blind (hvisits .flat) (.refl _) hbus).1
  have hlayouts (token : String) :
      (visits turned token).map Visit.layout = [turned, turned, turned] := rfl
  have hturned : run turned "red" = run turned "blue" :=
    (credentials_hidden Recorder.blind (hvisits turned) (.refl _) hbus).2
      ((hlayouts "red").trans (hlayouts "blue").symm)
  exact ⟨hflat, hturned, by decide +kernel⟩

end Respond

end Api

end ScriptedChat
