import ScriptedChat.Api.Body
import ScriptedChat.Proofs.Engine.Coherence
import ScriptedChat.Proofs.Script.Reordering
import ScriptedChat.Proofs.Script.RoundTrip
import ScriptedChat.View

/-!
A script that was accepted is accepted again. What a bot shows of its script is a body that
submits the same script, in the order of the tables; under the rule for cycles under which its
scripts were accepted, every stored bot takes that body, as its mailings point into the script
already, and nothing changes but the time of the last change.
-/
namespace ScriptedChat

open Json Shape Decoder

theorem Json.anyTorn_map {α : Type} {f : α → Json} (h : ∀ a, (f a).isTorn = false) (l : List α) :
    anyTorn (l.map f) = false := by
  induction l with
  | nil => rfl
  | cons a rest ih => rw [List.map_cons, anyTorn, h a, ih, Bool.or_false]

namespace Api.ScriptBody

theorem shape_knows : shape.Knows ["entry_points", "blocks"] := knows_field.both knows_field

/-- A submitted script is found list by list. -/
theorem gathers_iff {n : List (String × Json)} {body : ScriptBody} : shape.Gathers n body ↔
    (field "entry_points" (.list EntryPoint.decode)).Gathers n body.entries ∧
      (field "blocks" (.list Block.decode)).Gathers n body.blocks := by
  rw [shape, gathers_map_iff, ← gathers_both_iff knows_field knows_field (by simp)]
  constructor
  · intro h
    obtain ⟨_, hgathers, rfl⟩ := h
    exact hgathers
  · intro h
    exact ⟨_, h, rfl⟩

end Api.ScriptBody

namespace Bot

variable {bot changed : Bot} {cycles : CyclePolicy} {now : Time}

/-- A bot whose script would be accepted again as the script of that bot. -/
structure Standing (cycles : CyclePolicy) (bot : Bot) : Prop where
  consistent : bot.Consistent
  accepted : Script.build bot.script.entries.rows bot.script.blocks.rows cycles = .ok bot.script

theorem standing_lasting (setting : Setting) : Lasting (Standing setting.cycles) setting where
  create draft bot h := by
    have hconsistent := consistent_of_create h
    obtain ⟨_, _, script, hbuild, rfl⟩ := create_ok_iff.1 h
    exact ⟨hconsistent, Script.build_rows hbuild⟩
  setScript bot entries blocks changed hbot h := by
    have hconsistent := hbot.consistent.setScript h
    obtain ⟨script, hbuild, _, rfl⟩ := setScript_ok_iff.1 h
    exact ⟨hconsistent, Script.build_rows hbuild⟩
  addMailing bot mailing changed hbot h := by
    have hconsistent := hbot.consistent.addMailing h
    obtain ⟨_, _, _, rfl⟩ := addMailing_ok_iff.1 h
    exact ⟨hconsistent, hbot.accepted⟩
  setStatus bot status hbot :=
    ⟨hbot.consistent.setStatus status setting.now, hbot.accepted⟩

/-- Its own listings are taken by a bot, and change only the time of its last change. -/
theorem Standing.setScript (h : bot.Standing cycles) (now : Time) :
    bot.setScript bot.script.entries.rows bot.script.blocks.rows cycles now =
      .ok { bot with updatedAt := now } := by
  refine setScript_ok_iff.2 ⟨bot.script, h.accepted, Outcome.forM_ok_iff.2 fun m hm => ?_, rfl⟩
  exact checkTargets_ok_iff.2 ⟨h.consistent.keys_exist m hm, h.consistent.states_exist m hm⟩

/-- The view of a bot can be submitted as a script. -/
theorem decode_view (bot : Bot) : Api.ScriptBody.shape.decode bot.view =
    .ok ⟨bot.script.entries.rows, bot.script.blocks.rows⟩ := by
  have hmailings : anyTorn (bot.mailings.map Mailing.toJson) = false := anyTorn_map (fun _ => rfl) _
  refine (decode_object_iff Api.ScriptBody.shape_knows).2
    ⟨?_, Api.ScriptBody.gathers_iff.2 ⟨?_, ?_⟩⟩
  · simp [passes_iff, document, ScriptDocument.members, times, hmailings, Json.list, isTorn]
  · exact gathers_written (recovers_list fun e _ => e.recovers) rfl (.refl _)
  · exact gathers_written (recovers_list fun b _ => b.recovers) rfl (.refl _)

end Bot

namespace Engine

open ScriptedChat.Action

variable {π : Type} {layout : Memory.Layout}

theorem standing_carryOutAll (publisher : Publisher π) (w : π) {cycles : CyclePolicy}
    {requests : List Occasion}
    (hcycles : ∀ request ∈ requests, request.setting.cycles = cycles) :
    (carryOutAll publisher ({}, w) requests).1.Every (Bot.Standing cycles) := by
  refine every_carryOutAll publisher w fun request hrequest => ?_
  rw [← hcycles request hrequest]
  exact Bot.standing_lasting request.setting

/-- A stored bot that takes a change of its owner is saved as the change leaves it. -/
theorem exec_setScript (publisher : Publisher π) {setting : Setting} {m : Memory} {w : π}
    {id : Uuid} {bot changed : Bot} {entries : List EntryPoint} {blocks : List Block}
    (hbot : m.bots.get? id = some bot)
    (hchange : bot.setScript entries blocks setting.cycles setting.now = .ok changed) :
    exec ((inMemory publisher layout).handle setting (.setScript id bot.owner entries blocks))
        (m, w) =
      (.ok (.bot changed), (m.saveBot changed, w)) := by
  have hupdate :
      exec ((inMemory publisher layout).setScript setting id bot.owner entries blocks) (m, w) =
        (.ok changed, (m.saveBot changed, w)) := by
    simp [setScript, Stores.within, Memory.stores, Memory.exec_updateBot hbot, Bot.ensureOwner,
      hchange]
  simp only [handle, exec_bind, hupdate, exec_pure]

/-- The order of the lists decides nothing but which of several faults of single items is told,
and an accepted script is accepted again. So is the script that a bot shows, after any requests
that were carried out under one rule for cycles: its owner can submit the view of the bot, which
changes only the time of the last change. -/
theorem order_immaterial :
    (∀ (entries entries' : List EntryPoint) (blocks blocks' : List Block) (cycles : CyclePolicy),
      entries.Perm entries' → blocks.Perm blocks' →
        (∀ script, Script.build entries' blocks' cycles = .ok script ↔
          Script.build entries blocks cycles = .ok script) ∧
        (Script.SoundBlocks blocks → Script.SoundEntries entries → entries ≠ [] →
          Script.build entries' blocks' cycles = Script.build entries blocks cycles)) ∧
    (∀ (entries : List EntryPoint) (blocks : List Block) (cycles : CyclePolicy) (script : Script),
      Script.build entries blocks cycles = .ok script →
        Script.build script.entries.rows script.blocks.rows cycles = .ok script) ∧
    ∀ {π : Type} (publisher : Publisher π) (w : π) (requests : List Occasion)
      (cycles : CyclePolicy), (∀ request ∈ requests, request.setting.cycles = cycles) →
        let world := carryOutAll publisher ({}, w) requests
        ∀ id bot, world.1.bots.get? id = some bot →
          ∃ body, Api.ScriptBody.shape.decode bot.view = .ok body ∧ ∀ now,
            exec ((inMemory publisher layout).handle ⟨now, cycles⟩
                (.setScript id bot.owner body.entries body.blocks)) world =
              (.ok (.bot { bot with updatedAt := now }),
                (world.1.saveBot { bot with updatedAt := now }, world.2)) := by
  refine ⟨?_, fun _ _ _ _ => Script.build_rows, ?_⟩
  · intro entries entries' blocks blocks' cycles hentries hblocks
    exact ⟨fun _ => Script.build_ok_perm_iff hentries hblocks, Script.build_perm hentries hblocks⟩
  · intro π publisher w requests cycles hcycles world id bot hbot
    refine ⟨_, bot.decode_view, fun now => ?_⟩
    have hstanding := standing_carryOutAll publisher w hcycles id bot hbot
    have hchange : bot.setScript bot.script.entries.rows bot.script.blocks.rows
        (Setting.mk now cycles).cycles (Setting.mk now cycles).now =
          .ok { bot with updatedAt := now } := hstanding.setScript now
    exact exec_setScript publisher hbot hchange

/-- Two lists that are turned around, and a bot that was given a mailing and started. -/
theorem order_immaterial_shop :
    let entries : List EntryPoint := [⟨"start", 1⟩, ⟨"again", 2⟩]
    let blocks : List Block := [⟨2, 0, "Name", "Who are you?", .question⟩,
      ⟨1, 2, "Hello", "Welcome", .message⟩]
    let script := Script.restore entries blocks
    let requests : List Occasion := [
      .createBot ⟨⟨1⟩, 5, "Shop", "token", entries, blocks⟩,
      .addMailing ⟨1⟩ 5 ⟨"news", "start", 2⟩,
      .startBot ⟨1⟩ 5].map fun c => ⟨.flat, ⟨⟨0⟩, .reject⟩, c⟩
    (Script.build entries.reverse blocks.reverse .reject = .ok script ∧
      Script.build entries.reverse blocks.reverse .reject = Script.build entries blocks .reject ∧
      Script.build script.entries.rows script.blocks.rows .reject = .ok script) ∧
    ∃ bot body, (carryOutAll Recorder.publish ({}, {}) requests).1.bots.get? ⟨1⟩ = some bot ∧
      bot.mailings = [⟨"news", "start", 2⟩] ∧ Api.ScriptBody.shape.decode bot.view = .ok body ∧
        exec ((inMemory Recorder.publish .flat).handle ⟨⟨7⟩, .reject⟩
            (.setScript ⟨1⟩ bot.owner body.entries body.blocks))
            (carryOutAll Recorder.publish ({}, {}) requests) =
          (.ok (.bot { bot with updatedAt := ⟨7⟩ }),
            ((carryOutAll Recorder.publish ({}, {}) requests).1.saveBot
                { bot with updatedAt := ⟨7⟩ },
              (carryOutAll Recorder.publish ({}, {}) requests).2)) := by
  intro entries blocks script requests
  obtain ⟨horder, hagain, hstored⟩ := order_immaterial
  have hbuild : Script.build entries blocks .reject = .ok script := by decide +kernel
  obtain ⟨hscript, hfault⟩ := horder entries entries.reverse blocks blocks.reverse .reject
    entries.reverse_perm.symm blocks.reverse_perm.symm
  refine ⟨⟨(hscript script).2 hbuild, hfault (by decide +kernel) (by decide +kernel) (by decide),
    hagain entries blocks .reject script hbuild⟩, ?_⟩
  have hlisted : ((carryOutAll Recorder.publish ({}, {}) requests).1.bots.get? ⟨1⟩).map
      Bot.mailings = some [⟨"news", "start", 2⟩] := by
    decide +kernel
  obtain ⟨bot, hbot, hmailings⟩ := Option.map_eq_some_iff.1 hlisted
  have hcycles : ∀ request ∈ requests, request.setting.cycles = .reject := by
    intro request hrequest
    obtain ⟨_, _, rfl⟩ := List.mem_map.1 hrequest
    rfl
  obtain ⟨body, hbody, hset⟩ := hstored Recorder.publish {} requests .reject hcycles ⟨1⟩ bot hbot
  exact ⟨bot, body, hbot, hmailings, hbody, hset ⟨7⟩⟩

end Engine

end ScriptedChat
