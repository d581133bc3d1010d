import ScriptedChat.Bus.Flusher
import ScriptedChat.Config.Launch
import ScriptedChat.Proofs.Bus.Backlog
import ScriptedChat.Proofs.Outcome

/-!
What an accepted configuration can be run with. A backend in the database is accepted only together
with a connection string, so a server that is put together fails at most for a database that cannot
be reached. The period of the flushes is accepted whatever number it is, and no timer has a period
of zero: an outbox is flushed at the beginning, at every tick and at the end unless the variable
says zero, and then it is never flushed.
-/
namespace ScriptedChat

namespace Text

theorem digitValue?_eq_zero_iff {c : Char} : digitValue? c = some 0 ↔ c = '0' := by
  unfold digitValue?
  constructor
  · intro h
    split at h
    · rename_i hdigit
      have hlow : '0'.toNat ≤ c.toNat := hdigit.1
      have hvalue : c.toNat - '0'.toNat = 0 := Option.some.inj h
      exact Char.toNat_inj.1 (by omega)
    · cases h
  · rintro rfl
    decide

/-- Digits are read as zero when nothing but zeros stands there. -/
theorem readDigits_eq_zero_iff {limit value : Nat} {beyond : NumeralFault} {l : List Char} :
    readDigits limit beyond value l = .ok 0 ↔ value = 0 ∧ ∀ c ∈ l, c = '0' := by
  -- A value never becomes smaller, so it is zero at the end if it was zero all along.
  induction l generalizing value with
  | nil => simp [readDigits]
  | cons c l ih =>
    rw [List.forall_mem_cons, ← digitValue?_eq_zero_iff, readDigits]
    cases digitValue? c with
    | none => simp
    | some d =>
      by_cases hlimit : value * 10 + d ≤ limit
      · simp only [hlimit, if_true, ih, Option.some.injEq]
        rw [← and_assoc]
        exact and_congr_left fun _ => by omega
      · simp only [hlimit, if_false, Option.some.injEq, reduceCtorEq, false_iff]
        omega

/-- The texts of the number zero: zeros, and perhaps a plus in front. -/
def IsZero (s : String) : Prop :=
  ∃ digits, digits ≠ [] ∧ (∀ c ∈ digits, c = '0') ∧ (s.toList = digits ∨ s.toList = '+' :: digits)

theorem readNat_eq_zero_iff {limit : Nat} {s : String} : readNat limit s = .ok 0 ↔ IsZero s := by
  unfold readNat IsZero
  constructor
  · intro h
    split at h
    · cases h
    · cases h
    · rename_i digits hplus hs
      refine ⟨digits, ?_, (readDigits_eq_zero_iff.1 h).2, .inr hs⟩
      rintro rfl
      exact hplus rfl
    · rename_i digits hempty _ _
      exact ⟨_, hempty, (readDigits_eq_zero_iff.1 h).2, .inl rfl⟩
  · rintro ⟨digits, hne, hzeros, hs | hs⟩
    · have hplus : ∀ rest, digits ≠ '+' :: rest := by
        rintro rest rfl
        exact absurd (hzeros '+' List.mem_cons_self) (by decide)
      rw [hs]
      split
      · exact absurd rfl hne
      · exact absurd rfl (hplus _)
      · exact absurd rfl (hplus _)
      · exact readDigits_eq_zero_iff.2 ⟨rfl, hzeros⟩
    · rw [hs]
      cases digits with
      | nil => exact absurd rfl hne
      | cons c digits => exact readDigits_eq_zero_iff.2 ⟨rfl, hzeros⟩

end Text

namespace ApiConfig

/-- Whether a backend is to be in the database, which is the default. -/
def Selects (vars : Variables) (name : String) : Prop :=
  vars name = none ∨ vars name = some "postgres"

theorem chooseWord_of_selects {vars : Variables} {name : String} (h : Selects vars name) :
    chooseWord vars name ("postgres", Backend.postgres) ("memory", .memory) = .ok .postgres := by
  unfold chooseWord
  rcases h with h | h
  · rw [h]
  · rw [h]
    exact if_pos rfl

/-- A configuration is accepted when each variable is and no backend lacks the database. -/
theorem ofVariables_ok_iff {vars : Variables} {config : ApiConfig} :
    ofVariables vars = .ok config ↔
      readAddress vars = .ok config.address ∧
      chooseWord vars "STORAGE_BACKEND" ("postgres", .postgres) ("memory", .memory) =
        .ok config.storage ∧
      chooseWord vars "BUS_BACKEND" ("postgres", .postgres) ("memory", .memory) =
        .ok config.bus ∧
      chooseWord vars "PUBLISH_MODE" ("direct", .direct) ("outbox", .outbox) =
        .ok config.publishMode ∧
      readCycles vars = .ok config.cycles ∧
      readFlushInterval vars = .ok config.flushInterval ∧
      config.databaseUrl = vars "DATABASE_URL" ∧
      (config.storage = .postgres ∨ config.bus = .postgres → config.databaseUrl.isSome) := by
  simp only [ofVariables, Outcome.bind_ok_iff]
  constructor
  · rintro ⟨address, haddress, storage, hstorage, bus, hbus, mode, hmode, cycles, hcycles, interval,
      hinterval, h⟩
    split at h
    · cases h
    · rename_i hdatabase
      cases h
      refine ⟨haddress, hstorage, hbus, hmode, hcycles, hinterval, rfl, fun hneeds => ?_⟩
      by_contra hnone
      exact hdatabase ⟨hneeds, by simpa using hnone⟩
  · rintro ⟨haddress, hstorage, hbus, hmode, hcycles, hinterval, hurl, hdatabase⟩
    refine ⟨_, haddress, _, hstorage, _, hbus, _, hmode, _, hcycles, _, hinterval, ?_⟩
    rw [← hurl, if_neg]
    · rfl
    · rintro ⟨hneeds, hnone⟩
      have hsome := hdatabase hneeds
      rw [Option.isNone_iff_eq_none] at hnone
      rw [hnone] at hsome
      cases hsome

/-- A backend in the database without a connection string is never accepted. -/
theorem ofVariables_rejects {vars : Variables}
    (hselects : Selects vars "STORAGE_BACKEND" ∨ Selects vars "BUS_BACKEND")
    (hnone : vars "DATABASE_URL" = none) : ∃ e, ofVariables vars = .error e := by
  cases h : ofVariables vars with
  | error e => exact ⟨e, rfl⟩
  | ok config =>
    obtain ⟨_, hstorage, hbus, _, _, _, hurl, hdatabase⟩ := ofVariables_ok_iff.1 h
    have hneeds : config.storage = .postgres ∨ config.bus = .postgres := by
      refine hselects.imp (fun hword => ?_) fun hword => ?_
      · rw [chooseWord_of_selects hword] at hstorage
        exact (Except.ok.inj hstorage).symm
      · rw [chooseWord_of_selects hword] at hbus
        exact (Except.ok.inj hbus).symm
    have hsome := hdatabase hneeds
    rw [hurl, hnone] at hsome
    cases hsome

/-- The period is zero when the variable says so. -/
theorem readFlushInterval_eq_zero_iff {vars : Variables} :
    readFlushInterval vars = .ok 0 ↔
      ∃ text, vars "OUTBOX_FLUSH_INTERVAL_MS" = some text ∧ Text.IsZero text := by
  unfold readFlushInterval
  cases vars "OUTBOX_FLUSH_INTERVAL_MS" with
  | none => simp
  | some text =>
    have hzero : Text.readNat (UInt64.size - 1) text = .ok 0 ↔ Text.IsZero text :=
      Text.readNat_eq_zero_iff
    simp only [Option.some.injEq, exists_eq_left', ← hzero]
    cases Text.readNat (UInt64.size - 1) text <;> simp

end ApiConfig

namespace Server

variable {π ε : Type}

/-- Connecting fails when the database cannot be connected to, and otherwise there is a connection
if there is a connection string. -/
theorem openPool_cases (connect : String → Except ε π) (url : Option String) :
    (∃ text error, url = some text ∧ connect text = .error error ∧
        openPool connect url = .error (.connection error)) ∨
      ∃ pool, openPool connect url = .ok pool ∧ pool.isSome = url.isSome := by
  cases url with
  | none => exact .inr ⟨none, rfl, rfl⟩
  | some text =>
    cases hconnect : connect text with
    | error error =>
      exact .inl ⟨text, error, rfl, hconnect, by simp [openPool, hconnect, Except.map]⟩
    | ok connection =>
      exact .inr ⟨some connection, by simp [openPool, hconnect, Except.map], rfl⟩

theorem connectionOf_ok (ε : Type) {pool : Option π} {backend : Backend}
    (h : backend = .postgres → pool.isSome) :
    ∃ used, (connectionOf pool backend : Except (LaunchFault ε) _) = .ok used := by
  cases backend with
  | memory => exact ⟨none, rfl⟩
  | postgres =>
    obtain ⟨connection, rfl⟩ := Option.isSome_iff_exists.1 (h rfl)
    exact ⟨some connection, rfl⟩

/-- With a connection string for the backends that need one, a server is put together unless the
database cannot be connected to. -/
theorem launch_error {config : ApiConfig} {connect : String → Except ε π} {e : LaunchFault ε}
    (hdatabase : config.storage = .postgres ∨ config.bus = .postgres → config.databaseUrl.isSome)
    (h : launch connect config = .error e) :
    ∃ url error, config.databaseUrl = some url ∧ connect url = .error error ∧
      e = .connection error := by
  unfold launch at h
  rcases openPool_cases connect config.databaseUrl with
    ⟨url, error, hurl, hconnect, hpool⟩ | ⟨pool, hpool, hsome⟩
  · rw [hpool, Outcome.error_bind] at h
    cases h
    exact ⟨url, error, hurl, hconnect, rfl⟩
  · obtain ⟨stores, hstores⟩ := connectionOf_ok ε fun hpostgres =>
      hsome.trans (hdatabase (.inl hpostgres))
    obtain ⟨bus, hbus⟩ := connectionOf_ok ε fun hpostgres =>
      hsome.trans (hdatabase (.inr hpostgres))
    rw [hpool, Outcome.ok_bind, hstores, Outcome.ok_bind, hbus, Outcome.ok_bind] at h
    cases h

end Server

/-- Whether something is published. -/
def Outbox.Call.isPublish : Outbox.Call → Bool
  | .publish _ => true
  | .flush => false

namespace Flusher

open Outbox (after)

variable {σ : Type}

/-- What happens to an outbox while a task flushes it: something is published, or the timer
ticks. -/
def handle (p : Publisher σ) : Outbox.Call → StateM (Flusher σ) Unit
  | .publish batch => do
    let _ ← outboxPart.lift (Outbox.publish p batch)
  | .flush => tick p

def handleAll (p : Publisher σ) : List Outbox.Call → StateM (Flusher σ) Unit
  | [] => return
  | call :: calls => do
    handle p call
    handleAll p calls

/-- The life of a task with a period, from its beginning to the end of all tasks. -/
def life (p : Publisher σ) (period : Nat) (calls : List Outbox.Call) : StateM (Flusher σ) Unit := do
  spawnEvery p period
  handleAll p calls
  shutdown p

theorem run_flushFor (p : Publisher σ) (n : Nat) (f : Flusher σ) :
    ((flushFor p n).run f).2 = { f with outbox := after p f.outbox (List.replicate n .flush) } := by
  induction n generalizing f with
  | zero => rfl
  | succ n ih => exact ih { f with outbox := after p f.outbox [.flush] }

/-- A call reaches the outbox once for each task if it is a tick, and once otherwise. -/
def felt (tasks : Nat) : Outbox.Call → List Outbox.Call
  | .publish batch => [.publish batch]
  | .flush => List.replicate tasks .flush

theorem run_handle (p : Publisher σ) (call : Outbox.Call) (f : Flusher σ) :
    ((handle p call).run f).2 = { f with outbox := after p f.outbox (felt f.tasks call) } := by
  cases call with
  | publish batch => rfl
  | flush => exact run_flushFor p f.tasks f

theorem run_handleAll (p : Publisher σ) (calls : List Outbox.Call) (f : Flusher σ) :
    ((handleAll p calls).run f).2 =
      { f with outbox := after p f.outbox (calls.flatMap (felt f.tasks)) } := by
  induction calls generalizing f with
  | nil => rfl
  | cons call calls ih =>
    have hstep : ((handleAll p (call :: calls)).run f).2 =
        ((handleAll p calls).run ((handle p call).run f).2).2 := rfl
    rw [hstep, ih, run_handle, List.flatMap_cons]
    simp only [after, List.foldl_append]

theorem flatMap_felt_zero (calls : List Outbox.Call) :
    calls.flatMap (felt 0) = calls.filter Outbox.Call.isPublish := by
  induction calls with
  | nil => rfl
  | cons call calls ih => cases call <;> simp [felt, Outbox.Call.isPublish, List.filter_cons, ih]

theorem flatMap_felt_one (calls : List Outbox.Call) : calls.flatMap (felt 1) = calls := by
  induction calls with
  | nil => rfl
  | cons call calls ih => cases call <;> simp [felt, ih]

/-- A task with a period flushes when it begins, at every tick and at the end, and one without a
period never does. -/
theorem outbox_life (p : Publisher σ) (period : Nat) (calls : List Outbox.Call) (o : Outbox σ) :
    ((life p period calls).run { outbox := o }).2.outbox =
      after p o (if 0 < period then .flush :: calls ++ [.flush]
        else calls.filter Outbox.Call.isPublish) := by
  have hlife : ((life p period calls).run { outbox := o }).2 =
      ((shutdown p).run ((handleAll p calls).run
        ((spawnEvery p period).run { outbox := o }).2).2).2 := rfl
  have hshutdown : ∀ f : Flusher σ, ((shutdown p).run f).2.outbox =
      after p f.outbox (List.replicate f.tasks .flush) :=
    fun f => congrArg outbox (run_flushFor p f.tasks f)
  rw [hlife, hshutdown, run_handleAll]
  -- Without a period no task is at work, so no tick and no end is felt.
  rcases Nat.eq_zero_or_pos period with rfl | hpos
  · exact congrArg (after p o) (flatMap_felt_zero calls)
  · have hspawn : ((spawnEvery p period).run { outbox := o }).2 =
        { outbox := after p o [.flush], tasks := 1 } := by
      rw [spawnEvery, if_neg (by omega)]
      rfl
    simp only [hspawn, flatMap_felt_one, hpos, if_true, after, List.foldl_cons, List.foldl_append,
      List.foldl_nil, List.replicate_one]

end Flusher

namespace ApiConfig

/-- What an accepted configuration can be run with. Who selects a backend in the database without a
connection string is rejected; so with an accepted configuration a server is put together unless
the database cannot be connected to. The period of the flushes is positive unless the variable says
zero. If it is, a task flushes an outbox when it begins, at every tick and at the end; if it is not,
the outbox is tried only when something is published. -/
theorem ofVariables_runnable (vars : Variables) :
    (Selects vars "STORAGE_BACKEND" ∨ Selects vars "BUS_BACKEND" → vars "DATABASE_URL" = none →
      ∃ e, ofVariables vars = .error e) ∧
    ∀ config, ofVariables vars = .ok config →
      (config.storage = .postgres ∨ config.bus = .postgres → config.databaseUrl.isSome) ∧
      (∀ (π ε : Type) (connect : String → Except ε π) (e : LaunchFault ε),
        Server.launch connect config = .error e → ∃ url error, config.databaseUrl = some url ∧
          connect url = .error error ∧ e = .connection error) ∧
      (0 < config.flushInterval ↔
        ¬ ∃ text, vars "OUTBOX_FLUSH_INTERVAL_MS" = some text ∧ Text.IsZero text) ∧
      ∀ (σ : Type) (p : Publisher σ) (calls : List Outbox.Call) (o : Outbox σ),
        ((Flusher.life p config.flushInterval calls).run { outbox := o }).2.outbox =
          Outbox.after p o (if 0 < config.flushInterval then .flush :: calls ++ [.flush]
            else calls.filter Outbox.Call.isPublish) := by
  refine ⟨ofVariables_rejects, fun config h => ?_⟩
  obtain ⟨_, _, _, _, _, hinterval, _, hdatabase⟩ := ofVariables_ok_iff.1 h
  refine ⟨hdatabase, fun _ _ _ _ => Server.launch_error hdatabase, ?_,
    fun _ p calls o => Flusher.outbox_life p config.flushInterval calls o⟩
  rw [← readFlushInterval_eq_zero_iff, hinterval, Except.ok.injEq, Nat.pos_iff_ne_zero]

/-- A server with a database for its bus only, and with a period of a second; and a source without
the connection string. -/
theorem ofVariables_runnable_bus :
    let lost : Variables := fun name => [("STORAGE_BACKEND", "memory")].lookup name
    let vars : Variables := fun name => [("STORAGE_BACKEND", "memory"),
      ("DATABASE_URL", "postgres://localhost/scriptbot"), ("PUBLISH_MODE", "outbox"),
      ("OUTBOX_FLUSH_INTERVAL_MS", "+1000")].lookup name
    let config : ApiConfig := ⟨some "postgres://localhost/scriptbot",
      .v4 [0, 0, 0, 0] 3000, .memory, .postgres, .permissive, .outbox, 1000⟩
    (Selects lost "BUS_BACKEND" ∧ lost "DATABASE_URL" = none ∧
      ∃ e, ofVariables lost = .error e) ∧
    ofVariables vars = .ok config ∧ config.databaseUrl.isSome ∧
      (0 < config.flushInterval ↔
        ¬ ∃ text, vars "OUTBOX_FLUSH_INTERVAL_MS" = some text ∧ Text.IsZero text) ∧
      ∀ (σ : Type) (p : Publisher σ) (o : Outbox σ),
        ((Flusher.life p 1000 [.flush]).run { outbox := o }).2.outbox =
          Outbox.after p o [.flush, .flush, .flush] := by
  intro lost vars config
  have hselects : Selects lost "BUS_BACKEND" := .inl rfl
  have hlost : lost "DATABASE_URL" = none := rfl
  have hconfig : ofVariables vars = .ok config := by decide +kernel
  obtain ⟨hdatabase, _, hperiod, hlife⟩ := (ofVariables_runnable vars).2 config hconfig
  exact ⟨⟨hselects, hlost, (ofVariables_runnable lost).1 (.inr hselects) hlost⟩, hconfig,
    hdatabase (.inr rfl), hperiod, fun σ p o => hlife σ p [.flush] o⟩

/-- A period of zero is accepted. Then an envelope that the bus did not take at first is offered at
no tick and not at the end, although the bus would take it. -/
theorem zero_period_accepted :
    let vars : Variables := fun name => [("STORAGE_BACKEND", "memory"), ("BUS_BACKEND", "memory"),
      ("PUBLISH_MODE", "outbox"), ("OUTBOX_FLUSH_INTERVAL_MS", "0")].lookup name
    let stop : Envelope := .lifecycle (.stop ⟨1⟩)
    let refusing : Outbox Recorder := ⟨[], { failing := [0] }⟩
    ∃ config, ofVariables vars = .ok config ∧ config.publishMode = .outbox ∧
      ¬ 0 < config.flushInterval ∧
      ((Flusher.life Recorder.publish config.flushInterval [.publish [stop], .flush, .flush]).run
        { outbox := refusing }).2.outbox = ⟨[stop], { failing := [-1] }⟩ := by
  intro vars stop refusing
  refine ⟨⟨none, .v4 [0, 0, 0, 0] 3000, .memory, .memory, .permissive, .outbox, 0⟩, ?_, rfl,
    by decide, rfl⟩
  decide +kernel

end ApiConfig

end ScriptedChat
