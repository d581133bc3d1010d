import Mathlib.Data.List.Forall2
import ScriptedChat.Proofs.Engine.Interchange

/-!
Stores in memory and stores in a database cannot be told apart by what the engine answers and
by what it hands to the publisher. Both are asked the same requests from the start, with the
same readings of the clock, and the same publishes fail. Every answer is the same, and so is
every batch; only the batch of a resume may come in another order, and in a list bots of one age
come as the map in memory is laid out.
-/
namespace ScriptedChat.Engine

open ScriptedChat.Action

inductive Request
  | command (occasion : Occasion)
  /-- A query, while the map of the bots is laid out in some way. -/
  | query (layout : Memory.Layout) (q : Query)

inductive Response
  | reply (r : Reply)
  | view (r : QueryReply)
  deriving DecidableEq

/-- What an engine does on a request. If its stores have a map of bots, the request says how that is
laid out. -/
def respond {σ : Type} (e : Memory.Layout → Engine σ) : Request → Action σ Response
  | .command occasion => return .reply (← (e occasion.layout).handle occasion.setting
      occasion.command)
  | .query layout q => return .view (← (e layout).ask q)

namespace Request

def layout : Request → Memory.Layout
  | .command occasion => occasion.layout
  | .query layout _ => layout

/-- Requests with plain texts and with a clock in whole microseconds. -/
def Portable : Request → Prop
  | .command occasion => occasion.setting.now.Whole ∧ ∀ s ∈ occasion.command.texts, Plain s
  | .query _ _ => True

instance : DecidablePred Portable
  | .command occasion => inferInstanceAs
      (Decidable (occasion.setting.now.Whole ∧ ∀ s ∈ occasion.command.texts, Plain s))
  | .query _ _ => inferInstanceAs (Decidable True)

def IsResume (r : Request) : Prop := ∃ layout setting, r = .command ⟨layout, setting, .resume⟩

/-- Whether a request is for a list of bots. -/
def IsList (r : Request) : Prop := ∃ layout owner, r = .query layout (.bots owner)

end Request

/-- A publisher that knows beforehand which batches it takes, and writes down all that it is
handed. -/
structure Tape where
  /-- The number of batches so far. -/
  count : Nat
  batches : List (List Envelope)

def Tape.publish (outcomes : Nat → Except BusError Unit) : Publisher Tape := fun batch => do
  let tape ← get
  set (Tape.mk (tape.count + 1) (tape.batches ++ [batch]))
  return outcomes tape.count

/-- A request with all that comes of it. -/
structure Exchange where
  request : Request
  outcome : Except Error Response
  /-- The batches that the publisher was handed, also those that it refused. -/
  handed : List (List Envelope)

/-- The same outcome, except that a list may give bots of one age in another order. -/
inductive Response.Alike : Except Error Response → Except Error Response → Prop
  | same (outcome : Except Error Response) : Alike outcome outcome
  | listed (bots others : List Bot) (h : Bot.SameUpToAge bots others) :
      Alike (.ok (.view (.bots bots))) (.ok (.view (.bots others)))

/-- Exchanges with the same outcome and the same batches. A list may give bots of one age in another
order, unless the bots in memory all lie in one place. The batch of a resume may come in another
order. -/
structure Exchange.Alike (x y : Exchange) : Prop where
  request : x.request = y.request
  outcome : Response.Alike x.outcome y.outcome
  settled : x.request.layout = .flat → x.outcome = y.outcome
  handed : x.handed = y.handed ∨
    x.request.IsResume ∧ List.Forall₂ List.Perm x.handed y.handed

section Run

variable {σ : Type} (outcomes : Nat → Except BusError Unit) (stores : Memory.Layout → Stores σ)

/-- The outcome of one request, the stores and the publisher after it. -/
def answered (s : σ) (count : Nat) (r : Request) : Except Error Response × (σ × Tape) :=
  exec (respond (fun layout => ofParts (stores layout) (Tape.publish outcomes)) r) (s, ⟨count, []⟩)

/-- What comes of requests one after the other. -/
def exchanges (s : σ) (count : Nat) : List Request → List Exchange
  | [] => []
  | r :: rest =>
    let run := answered outcomes stores s count r
    ⟨r, run.1, run.2.2.batches⟩ :: exchanges run.2.1 run.2.2.count rest

theorem exchanges_cons (s : σ) (count : Nat) (r : Request) (rest : List Request) :
    exchanges outcomes stores s count (r :: rest) =
      ⟨r, (answered outcomes stores s count r).1,
        (answered outcomes stores s count r).2.2.batches⟩ ::
      exchanges outcomes stores (answered outcomes stores s count r).2.1
        (answered outcomes stores s count r).2.2.count rest := rfl

end Run

/-- Every portable request but a resume is answered alike, a list of bots only if all bots lie in
one place of the map. -/
theorem respond_agrees {π : Type} (publisher : Publisher π) {r : Request} (hr : r.Portable)
    (hresume : ¬ r.IsResume) (hlist : r.IsList → r.layout = .flat) :
    Agrees (Paired Mirrors) (respond (inMemory publisher) r)
      (respond (fun _ => inDatabase publisher) r) := by
  cases r with
  | command occasion =>
    obtain ⟨layout, setting, c⟩ := occasion
    obtain ⟨hnow, htexts⟩ := hr
    have hc : c ≠ .resume := by
      rintro rfl
      exact hresume ⟨layout, setting, rfl⟩
    exact (handle_agrees hnow htexts hc).bind fun r => Agrees.pure _
  | query layout q =>
    have hplace : (∃ owner, q = .bots owner) → layout = .flat := by
      rintro ⟨owner, rfl⟩
      exact hlist ⟨layout, owner, rfl⟩
    exact (ask_agrees q hplace).bind fun r => Agrees.pure _

/-- Whether a batch is taken does not depend on the batch. -/
theorem published_tape (outcomes : Nat → Except BusError Unit) (batch : List Envelope)
    (tape : Tape) :
    published (Tape.publish outcomes) batch tape =
      (outcomes tape.count).mapError Error.ofBus := rfl

theorem handed_tape (outcomes : Nat → Except BusError Unit) (batch : List Envelope)
    (tape : Tape) :
    handed (Tape.publish outcomes) batch tape = ⟨tape.count + 1, tape.batches ++ [batch]⟩ :=
  rfl

variable (outcomes : Nat → Except BusError Unit) {m : Memory} {db : Database} (count : Nat)

/-- The outcome of a resume over stores with a list of started bots. -/
theorem answered_resume {σ : Type} (stores : Memory.Layout → Stores σ) (layout : Memory.Layout)
    {s : σ} {bots : List Bot}
    (hlist : exec ((stores layout).botsWithStatus .started) s = (.ok bots, s)) (setting : Setting) :
    answered outcomes stores s count (.command ⟨layout, setting, .resume⟩) =
      if bots = [] then (.ok (.reply (.count 0)), (s, ⟨count, []⟩))
      else (((outcomes count).mapError Error.ofBus).map fun _ => .reply (.count bots.length),
        (s, ⟨count + 1, [starts bots]⟩)) := by
  rw [answered, respond, exec_bind, exec_resume _ setting hlist, published_tape, handed_tape]
  by_cases hbots : bots = []
  · simp only [hbots, if_true, exec_pure]
  · simp only [hbots, if_false]
    cases outcomes count with
    | error e => rfl
    | ok _ => rfl

/-- A resume is answered alike over stores that hold the same. -/
theorem resume_alike (h : Mirrors m db) (layout : Memory.Layout) (setting : Setting) :
    let x := answered outcomes Memory.stores m count (.command ⟨layout, setting, .resume⟩)
    let y := answered outcomes (fun _ => Database.stores) db count
      (.command ⟨layout, setting, .resume⟩)
    x.1 = y.1 ∧ List.Forall₂ List.Perm x.2.2.batches y.2.2.batches ∧
      Mirrors x.2.1 y.2.1 ∧ x.2.2.count = y.2.2.count := by
  obtain ⟨bots, bots', hlist, hlist', hperm⟩ := botsWithStatus_perm h layout .started
  have hx := answered_resume outcomes count Memory.stores layout hlist setting
  have hy := answered_resume outcomes count (fun _ => Database.stores) layout hlist' setting
  simp only [hx, hy]
  by_cases hnone : bots = []
  · have hnone' : bots' = [] := List.nil_perm.1 (hnone ▸ hperm)
    rw [if_pos hnone, if_pos hnone']
    exact ⟨rfl, List.Forall₂.nil, h, rfl⟩
  · have hnone' : bots' ≠ [] := by
      intro heq
      exact hnone (List.perm_nil.1 (heq ▸ hperm))
    have hbatch : (starts bots).Perm (starts bots') := hperm.map _
    rw [if_neg hnone, if_neg hnone', hperm.length_eq]
    exact ⟨rfl, List.Forall₂.cons hbatch List.Forall₂.nil, h, rfl⟩

/-- The bots of an operator are listed alike over stores that hold the same. -/
theorem list_alike (h : Mirrors m db) (layout : Memory.Layout) (owner : UserId) :
    let x := answered outcomes Memory.stores m count (.query layout (.bots owner))
    let y := answered outcomes (fun _ => Database.stores) db count (.query layout (.bots owner))
    Response.Alike x.1 y.1 ∧ (layout = .flat → x.1 = y.1) ∧ x.2.2 = y.2.2 ∧
      Mirrors x.2.1 y.2.1 := by
  intro x y
  have hx : x = (.ok (.view (.bots (m.ownedBy layout owner))), (m, ⟨count, []⟩)) := rfl
  have hy : y = (.ok (.view (.bots (m.ownedBy .flat owner))), (db, ⟨count, []⟩)) := by
    show answered _ _ _ _ _ = _
    rw [answered, respond, exec_bind, exec_ask_bots_database _ owner h]
    rfl
  rw [hx, hy]
  refine ⟨.listed _ _ (m.ownedBy_sameUpToAge layout .flat owner), ?_, rfl, h⟩
  rintro rfl
  rfl

/-- One request is answered alike over stores that hold the same. -/
theorem answered_alike (h : Mirrors m db) {r : Request} (hr : r.Portable) :
    let x := answered outcomes Memory.stores m count r
    let y := answered outcomes (fun _ => Database.stores) db count r
    Exchange.Alike ⟨r, x.1, x.2.2.batches⟩ ⟨r, y.1, y.2.2.batches⟩ ∧
      Mirrors x.2.1 y.2.1 ∧ x.2.2.count = y.2.2.count := by
  intro x y
  by_cases hresume : r.IsResume
  · obtain ⟨layout, setting, rfl⟩ := hresume
    obtain ⟨hsame, hbatches, hstores, hcount⟩ := resume_alike outcomes count h layout setting
    have houtcome : Response.Alike x.1 y.1 := by
      rw [hsame]
      exact .same _
    exact ⟨⟨rfl, houtcome, fun _ => hsame, Or.inr ⟨⟨layout, setting, rfl⟩, hbatches⟩⟩, hstores,
      hcount⟩
  by_cases hlist : r.IsList
  · obtain ⟨layout, owner, rfl⟩ := hlist
    obtain ⟨houtcome, hsettled, htape, hstores⟩ := list_alike outcomes count h layout owner
    exact ⟨⟨rfl, houtcome, hsettled, Or.inl (congrArg Tape.batches htape)⟩, hstores,
      congrArg Tape.count htape⟩
  · obtain ⟨hsame, hstores, htape⟩ :=
      respond_agrees (Tape.publish outcomes) hr hresume (fun h => absurd h hlist) (m, ⟨count, []⟩)
        (db, ⟨count, []⟩) ⟨h, rfl⟩
    have houtcome : Response.Alike x.1 y.1 := by
      rw [show x.1 = y.1 from hsame]
      exact .same _
    exact ⟨⟨rfl, houtcome, fun _ => hsame, Or.inl (congrArg Tape.batches htape)⟩, hstores,
      congrArg Tape.count htape⟩

/-- Over stores that hold the same, requests are answered alike one after the other. -/
theorem exchanges_alike (h : Mirrors m db) {requests : List Request}
    (hrequests : ∀ r ∈ requests, r.Portable) :
    List.Forall₂ Exchange.Alike (exchanges outcomes Memory.stores m count requests)
      (exchanges outcomes (fun _ => Database.stores) db count requests) := by
  induction requests generalizing m db count with
  | nil => exact List.Forall₂.nil
  | cons r rest ih =>
    obtain ⟨halike, hstores, hcount⟩ :=
      answered_alike outcomes count h (hrequests r List.mem_cons_self)
    have hrest := ih (answered outcomes Memory.stores m count r).2.2.count hstores
      fun r' hr' => hrequests r' (List.mem_cons_of_mem r hr')
    rw [exchanges_cons, exchanges_cons]
    refine List.Forall₂.cons halike ?_
    rw [← hcount]
    exact hrest

/-- From the start, stores in memory and stores in a database answer the same requests alike,
whichever publishes fail. -/
theorem stores_interchangeable (requests : List Request)
    (h : ∀ r ∈ requests, r.Portable) :
    List.Forall₂ Exchange.Alike (exchanges outcomes Memory.stores {} 0 requests)
      (exchanges outcomes (fun _ => Database.stores) {} 0 requests) :=
  exchanges_alike outcomes 0 Mirrors.empty h

/-- Two bots of one operator and one age are started, one after a publish that failed, and are
resumed and listed in opposite orders. Users enter and answer, one is reached by a mailing, and a
bot is deleted. -/
theorem stores_interchangeable_retry :
    let draft : Uuid → BotDraft := fun id => ⟨id, 5, "Shop", "token", [⟨"start", 1⟩],
      [⟨1, 2, "Hello", "Hi", .message⟩, ⟨2, 1, "Name", "Who are you?", .question⟩]⟩
    let turned : Memory.Layout := ⟨fun id => if id = ⟨1⟩ then 1 else 0⟩
    let command : Int → Command → Request := fun now c =>
      .command ⟨turned, ⟨⟨now⟩, .permissive⟩, c⟩
    let requests : List Request :=
      [command 1000 (.createBot (draft ⟨1⟩)), command 1000 (.createBot (draft ⟨2⟩)),
        command 3000 (.setScript ⟨1⟩ 5 [⟨"start", 1⟩] (draft ⟨1⟩).blocks),
        command 3000 (.addMailing ⟨1⟩ 5 ⟨"news", "start", 2⟩),
        command 4000 (.startBot ⟨1⟩ 5), command 5000 (.startBot ⟨1⟩ 5),
        command 6000 (.startBot ⟨2⟩ 5), command 7000 (.enter ⟨⟨1⟩, 7⟩ "start"),
        command 7000 (.process ⟨⟨1⟩, 7⟩ "Ann"), command 7000 (.enter ⟨⟨1⟩, 9⟩ "nowhere"),
        command 8000 (.sendMailing ⟨1⟩ 5 "news"), command 9000 .resume,
        .query turned (.bots 5), .query turned (.answers ⟨1⟩ 5),
        command 9000 (.deleteBot ⟨1⟩ 5), .query turned (.participant ⟨⟨1⟩, 7⟩ 5)]
    let outcomes : Nat → Except BusError Unit := fun n => if n = 0 then .error .closed else .ok ()
    (∀ r ∈ requests, r.Portable) ∧
      List.Forall₂ Exchange.Alike (exchanges outcomes Memory.stores {} 0 requests)
        (exchanges outcomes (fun _ => Database.stores) {} 0 requests) := by
  intro draft turned command requests outcomes
  have hportable : ∀ r ∈ requests, r.Portable := by
    decide +kernel
  exact ⟨hportable, stores_interchangeable outcomes requests hportable⟩

end ScriptedChat.Engine
