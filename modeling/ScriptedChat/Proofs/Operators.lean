import ScriptedChat.Proofs.Engine.Seclusion

/-!
Operators are kept apart. Whatever a stored bot is made of, nobody but its owner can change or read
it: each command and each query on it is refused, it is on no list of another operator, and no bot
can be made in its place. So a run of requests of others leaves the bot and its participants as they
were, and its answers say nothing about them: they are the same for all contents of the bot, over
stores in memory and over a database.
-/
namespace ScriptedChat.Engine

open ScriptedChat.Action

variable {σ τ π : Type}

/-- The answers to requests one after the other, and the world after them. -/
def respondAll (e : Memory.Layout → Engine σ) : σ → List Request →
    List (Except Error Response) × σ
  | s, [] => ([], s)
  | s, r :: rest =>
    let answer := exec (respond e r) s
    let later := respondAll e answer.2 rest
    (answer.1 :: later.1, later.2)

/-- Requests that are answered alike one by one are answered alike in a row. -/
theorem respondAll_agrees {tied : σ → τ → Prop} {e : Memory.Layout → Engine σ}
    {e' : Memory.Layout → Engine τ} {requests : List Request}
    (h : ∀ r ∈ requests, Agrees tied (respond e r) (respond e' r)) {s : σ} {t : τ}
    (hst : tied s t) :
    (respondAll e s requests).1 = (respondAll e' t requests).1 ∧
      tied (respondAll e s requests).2 (respondAll e' t requests).2 := by
  induction requests generalizing s t with
  | nil => exact ⟨rfl, hst⟩
  | cons r rest ih =>
    obtain ⟨hsame, htied⟩ := h r List.mem_cons_self s t hst
    obtain ⟨hlater, hend⟩ := ih (fun r' hr' => h r' (List.mem_cons_of_mem r hr')) htied
    refine ⟨?_, hend⟩
    rw [respondAll, respondAll, hsame, hlater]

/-- The list of the bots of an operator has no bot of another. -/
theorem exec_bots (publisher : Publisher π) (layout : Memory.Layout) (m : Memory) (w : π)
    (operator : UserId) :
    ∃ bots, exec ((inMemory publisher layout).ask (.bots operator)) (m, w) =
        (.ok (.bots bots), (m, w)) ∧
      ∀ bot ∈ bots, m.bots.get? bot.id = some bot ∧ bot.owner = operator := by
  refine ⟨_, exec_ask_bots publisher layout operator m w, ?_⟩
  intro bot hbot
  have hrow := List.mem_filter.1 ((m.ownedBy_perm layout operator).mem_iff.1 hbot)
  exact ⟨Table.get?_key_of_mem hrow.1, of_decide_eq_true hrow.2⟩

/-- A run of requests of others keeps stores agreeing outside of a bot. -/
theorem respondAll_veiled (publisher : Publisher π) {id : Uuid} {m m' : Memory} {x y : Bot}
    (hx : m.bots.get? id = some x) (hy : m'.bots.get? id = some y) (howner : y.owner = x.owner)
    (hagree : m.AgreeOutside id m') (w : π) {requests : List Request}
    (hforeign : ∀ r ∈ requests, r.Foreign id x.owner) :
    (respondAll (inMemory publisher) (m, w) requests).1 =
        (respondAll (inMemory publisher) (m', w) requests).1 ∧
      Paired (Memory.Veiled id m m') (respondAll (inMemory publisher) (m, w) requests).2
        (respondAll (inMemory publisher) (m', w) requests).2 := by
  refine respondAll_agrees (fun r hr => respond_foreign hx hy howner (hforeign r hr)) ?_
  exact ⟨⟨hagree, .refl id m, .refl id m'⟩, rfl⟩

/-- Over all stores in memory: who is not the owner of a stored bot is refused, whatever is asked of
it and whatever it is made of, and is never shown it; its identifier is taken; and a run of requests
of others leaves it alone and has the same answers, and the same publisher after it, for all
contents of the bot. All this holds however the map of the bots is laid out at each request. -/
theorem operators_apart (publisher : Publisher π) {m : Memory} (w : π) {id : Uuid} {bot : Bot}
    (hbot : m.bots.get? id = some bot) :
    (∀ layout, ∀ operator ≠ bot.owner,
      (∀ setting c, c.target? = some (id, operator) →
        exec ((inMemory publisher layout).handle setting c) (m, w) =
          (.error (.permissionDenied id), (m, w))) ∧
      (∀ q, q.target? = some (id, operator) →
        exec ((inMemory publisher layout).ask q) (m, w) =
          (.error (.permissionDenied id), (m, w))) ∧
      ∃ bots, exec ((inMemory publisher layout).ask (.bots operator)) (m, w) =
          (.ok (.bots bots), (m, w)) ∧
        ∀ other ∈ bots, other.id ≠ id) ∧
    (∀ layout setting draft, draft.id = id → ∃ e,
      exec ((inMemory publisher layout).handle setting (.createBot draft)) (m, w) =
        (.error e, (m, w))) ∧
    ∀ requests, (∀ r ∈ requests, Request.Foreign id bot.owner r) →
      (respondAll (inMemory publisher) (m, w) requests).2.1.AgreeOn id m ∧
      ∀ m' bot', m'.bots.get? id = some bot' → bot'.owner = bot.owner → m.AgreeOutside id m' →
        (respondAll (inMemory publisher) (m, w) requests).1 =
          (respondAll (inMemory publisher) (m', w) requests).1 ∧
        (respondAll (inMemory publisher) (m, w) requests).2.2 =
          (respondAll (inMemory publisher) (m', w) requests).2.2 := by
  have hholds (layout : Memory.Layout) := Memory.holds layout hbot
  refine ⟨?_, ?_, ?_⟩
  · intro layout operator howner
    obtain ⟨bots, hlist, hbots⟩ := exec_bots publisher layout m w operator
    refine ⟨fun setting c hc => (hholds layout).handle_denied howner hc,
      fun q hq => (hholds layout).ask_denied howner hq, bots, hlist, ?_⟩
    intro other hother hid
    obtain ⟨hstored, hown⟩ := hbots other hother
    rw [hid, hbot] at hstored
    cases hstored
    exact howner hown.symm
  · intro layout setting draft hid
    exact (hholds layout).createBot_denied hid
  · intro requests hforeign
    constructor
    · have hsame := respondAll_veiled publisher hbot hbot rfl ⟨fun _ _ => rfl, fun _ _ => rfl⟩ w
        hforeign
      exact hsame.2.1.left
    · intro m' bot' hbot' howner hagree
      obtain ⟨hanswers, _, hpublisher⟩ :=
        respondAll_veiled publisher hbot hbot' howner hagree w hforeign
      exact ⟨hanswers, hpublisher⟩

/-- Two contents of a bot, with other scripts, mailings, states and participants, and requests of
two other operators on it and on a bot of their own. -/
theorem operators_apart_rivals :
    let script : Script := .restore [⟨"start", 1⟩] [⟨1, 0, "Name", "Who are you?", .question⟩]
    let mine : Bot := ⟨⟨1⟩, 5, "Shop", "token", .stopped, script, [], ⟨0⟩, ⟨0⟩⟩
    let secret : Bot := ⟨⟨1⟩, 5, "Bank", "other", .started, .restore [] [], [⟨"all", "start", 0⟩],
      ⟨7⟩, ⟨9⟩⟩
    let theirs : Bot := ⟨⟨2⟩, 6, "Club", "club", .stopped, script, [⟨"all", "start", 1⟩], ⟨0⟩, ⟨0⟩⟩
    let m : Memory := ⟨.ofList [mine, theirs], .ofList [⟨⟨⟨1⟩, 8⟩, 1, .empty⟩]⟩
    let m' : Memory := ⟨.ofList [secret, theirs], .ofList [⟨⟨⟨1⟩, 9⟩, 3, .empty⟩]⟩
    let turned : Memory.Layout := ⟨fun id => if id = ⟨1⟩ then 1 else 0⟩
    let command : Command → Request := fun c => .command ⟨turned, ⟨⟨10⟩, .permissive⟩, c⟩
    let requests : List Request := [command (.enter ⟨⟨2⟩, 8⟩ "start"),
      command (.sendMailing ⟨1⟩ 6 "all"), command (.sendMailing ⟨2⟩ 6 "all"),
      command (.deleteBot ⟨1⟩ 7), .query .flat (.bots 6), .query turned (.answers ⟨1⟩ 7),
      command (.createBot ⟨⟨1⟩, 7, "Mine", "now", [⟨"start", 1⟩],
        [⟨1, 0, "Name", "Who are you?", .question⟩]⟩)]
    let run := fun m : Memory => respondAll (inMemory Recorder.publish) (m, {}) requests
    m.bots.get? ⟨1⟩ = some mine ∧ (run m).1 = (run m').1 ∧
      (run m).2.1.AgreeOn ⟨1⟩ m ∧
      exec ((inMemory Recorder.publish turned).ask (.bot ⟨1⟩ 6)) (m, {}) =
        (.error (.permissionDenied ⟨1⟩), (m, {})) := by
  intro script mine secret theirs m m' turned command requests run
  have hmine : m.bots.get? ⟨1⟩ = some mine := by decide +kernel
  have hsecret : m'.bots.get? ⟨1⟩ = some secret := by decide +kernel
  have hagree : m.AgreeOutside ⟨1⟩ m' := by
    apply Memory.AgreeOutside.of_dropBot
    decide +kernel
  have hforeign : ∀ r ∈ requests, Request.Foreign ⟨1⟩ mine.owner r := by
    simp [requests, command, mine, Request.Foreign, Command.Foreign, Query.Foreign, Command.target?,
      Query.target?]
  obtain ⟨hdenied, _, hruns⟩ := operators_apart Recorder.publish {} hmine
  obtain ⟨hkept, hsame⟩ := hruns requests hforeign
  exact ⟨hmine, (hsame m' secret hsecret rfl hagree).1, hkept,
    (hdenied turned 6 (by decide)).2.1 _ rfl⟩

/-- The same request, while all bots lie in one place of the map. -/
def Request.flattened : Request → Request
  | .command occasion => .command { occasion with layout := .flat }
  | .query _ q => .query .flat q

theorem Request.flattened_layout (r : Request) : r.flattened.layout = .flat := by
  cases r <;> rfl

theorem Request.foreign_flattened {id : Uuid} {owner : UserId} (r : Request) :
    r.flattened.Foreign id owner ↔ r.Foreign id owner := by
  cases r <;> rfl

theorem Request.portable_flattened (r : Request) : r.flattened.Portable ↔ r.Portable := by
  cases r <;> rfl

/-- Stores that have no map take no notice of how one is laid out. -/
theorem respondAll_flattened (e : Engine σ) (s : σ) (requests : List Request) :
    respondAll (fun _ => e) s (requests.map Request.flattened) =
      respondAll (fun _ => e) s requests := by
  induction requests generalizing s with
  | nil => rfl
  | cons r rest ih =>
    have hrespond : respond (fun _ => e) r.flattened = respond (fun _ => e) r := by
      cases r <;> rfl
    rw [List.map_cons, respondAll, respondAll, hrespond, ih]

/-- Over a database, as well, the answers to plain requests of others are the same for all contents
of a bot, and the bot and its participants are left alone. -/
theorem operators_apart_database (publisher : Publisher π) {id : Uuid} {m m' : Memory}
    {db db' : Database} {x y : Bot} (hdb : Mirrors m db) (hdb' : Mirrors m' db')
    (hx : m.bots.get? id = some x) (hy : m'.bots.get? id = some y) (howner : y.owner = x.owner)
    (hagree : m.AgreeOutside id m') (w : π) {requests : List Request}
    (hforeign : ∀ r ∈ requests, r.Foreign id x.owner) (hportable : ∀ r ∈ requests, r.Portable) :
    let e := fun _ => inDatabase publisher
    (respondAll e (db, w) requests).1 = (respondAll e (db', w) requests).1 ∧
      ∃ after, Mirrors after (respondAll e (db, w) requests).2.1 ∧ after.AgreeOn id m := by
  intro e
  -- A database answers as stores in memory do whose bots all lie in one place.
  have hflatForeign : ∀ r ∈ requests.map Request.flattened, r.Foreign id x.owner := by
    rw [List.forall_mem_map]
    exact fun r hr => r.foreign_flattened.2 (hforeign r hr)
  have hflatPortable : ∀ r ∈ requests.map Request.flattened, r.Portable := by
    rw [List.forall_mem_map]
    exact fun r hr => r.portable_flattened.2 (hportable r hr)
  have hrespond : ∀ r ∈ requests.map Request.flattened,
      Agrees (Paired Mirrors) (respond (inMemory publisher) r) (respond e r) := by
    intro r hr
    refine respond_agrees publisher (hflatPortable r hr) (hflatForeign r hr).not_resume ?_
    obtain ⟨r, _, rfl⟩ := List.mem_map.1 hr
    exact fun _ => r.flattened_layout
  obtain ⟨hleft, hmirrors, _⟩ := respondAll_agrees hrespond (s := (m, w)) (t := (db, w)) ⟨hdb, rfl⟩
  obtain ⟨hright, _⟩ := respondAll_agrees hrespond (s := (m', w)) (t := (db', w)) ⟨hdb', rfl⟩
  obtain ⟨hsame, hveiled, _⟩ := respondAll_veiled publisher hx hy howner hagree w hflatForeign
  rw [← respondAll_flattened, ← respondAll_flattened _ (db', w)]
  refine ⟨?_, _, hmirrors, hveiled.left⟩
  rw [← hleft, hsame, hright]

end ScriptedChat.Engine
