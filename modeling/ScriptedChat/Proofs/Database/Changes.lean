import ScriptedChat.Engine.Command
import ScriptedChat.Proofs.Bots
import ScriptedChat.Proofs.Conversation.Steps
import ScriptedChat.Proofs.Database.Operations
import ScriptedChat.Proofs.Script.WellFormed

/-!
What the engine saves can be written as rows. The texts of a bot come from the commands that
made and changed it, and the texts of answers are inputs; so all of them are plain when the
texts of every command are. An accepted script holds items of the lists that it was built from
and no others.
-/
namespace ScriptedChat

def Block.texts (b : Block) : List String := b.title :: b.text :: b.buttons

/-- The texts of the lists that a script is built from. -/
def Script.texts (entries : List EntryPoint) (blocks : List Block) : List String :=
  entries.map EntryPoint.key ++ blocks.flatMap Block.texts

/-- The texts that a command brings along. -/
def Command.texts : Command → List String
  | .createBot draft => draft.name :: draft.token :: Script.texts draft.entries draft.blocks
  | .setScript _ _ entries blocks => Script.texts entries blocks
  | .addMailing _ _ mailing => [mailing.name, mailing.entryKey]
  | .sendMailing _ _ name => [name]
  | .startBot _ _ | .stopBot _ _ | .deleteBot _ _ | .resume => []
  | .enter _ key => [key]
  | .process _ input => [input]

namespace Script

variable {entries : List EntryPoint} {blocks : List Block} {cycles : CyclePolicy}
  {script : Script}

theorem build_entries_subset (h : build entries blocks cycles = .ok script) {e : EntryPoint}
    (he : e ∈ script.entries.rows) : e ∈ entries := by
  obtain ⟨_, ⟨_, _, hnodup⟩, rfl, _⟩ := build_ok_iff.1 h
  exact (Table.mem_ofList hnodup).1 he

theorem build_blocks_subset (h : build entries blocks cycles = .ok script) {b : Block}
    (hb : b ∈ script.blocks.rows) : b ∈ blocks := by
  obtain ⟨⟨_, hnodup⟩, _, rfl, _⟩ := build_ok_iff.1 h
  exact (Table.mem_ofList hnodup).1 hb

/-- A script that was built from plain texts makes a plain document with plain mailings. -/
theorem build_allPlain (h : build entries blocks cycles = .ok script)
    (htexts : ∀ s ∈ texts entries blocks, Plain s) {mailings : List Mailing}
    (hmailings : ∀ m ∈ mailings, Plain m.name ∧ Plain m.entryKey) :
    ScriptDocument.AllPlain ⟨script.entries.rows, script.blocks.rows, mailings⟩ where
  entries e he := by
    have hmem := List.mem_map_of_mem (f := EntryPoint.key) (build_entries_subset h he)
    exact htexts e.key (List.mem_append_left _ hmem)
  blocks b hb := by
    have hblock : ∀ s ∈ b.texts, Plain s := by
      intro s hs
      have hmem := List.mem_flatMap.2 ⟨b, build_blocks_subset h hb, hs⟩
      exact htexts s (List.mem_append_right _ hmem)
    refine ⟨hblock _ (by simp [Block.texts]), hblock _ (by simp [Block.texts]), ?_⟩
    intro c hc
    have hbutton : c.text ∈ b.buttons := List.mem_map_of_mem hc
    exact hblock _ (by simp [Block.texts, hbutton])
  mailings := hmailings

end Script

namespace Bot

variable {bot changed : Bot} {cycles : CyclePolicy} {now : Time}

theorem create_storable {draft : BotDraft} (hname : Plain draft.name) (htoken : Plain draft.token)
    (htexts : ∀ s ∈ Script.texts draft.entries draft.blocks, Plain s) (hnow : now.Whole)
    (h : create draft cycles now = .ok bot) : bot.Storable := by
  obtain ⟨_, _, script, hbuild, rfl⟩ := create_ok_iff.1 h
  have hdocument : ScriptDocument.AllPlain ⟨script.entries.rows, script.blocks.rows, []⟩ :=
    Script.build_allPlain hbuild htexts fun m hm => absurd hm List.not_mem_nil
  exact ⟨hname, htoken, hdocument, hnow, hnow⟩

theorem setScript_keepsRow {entries : List EntryPoint} {blocks : List Block}
    (htexts : ∀ s ∈ Script.texts entries blocks, Plain s) (hnow : now.Whole) :
    KeepsRow fun bot => bot.setScript entries blocks cycles now := by
  intro bot changed hbot h
  obtain ⟨script, hbuild, _, rfl⟩ := setScript_ok_iff.1 h
  have hdocument := Script.build_allPlain hbuild htexts hbot.document.mailings
  exact ⟨⟨hbot.name, hbot.token, hdocument, hbot.created, hnow⟩, rfl, rfl, rfl⟩

theorem addMailing_keepsRow {mailing : Mailing} (hname : Plain mailing.name)
    (hkey : Plain mailing.entryKey) (hnow : now.Whole) :
    KeepsRow fun bot => bot.addMailing mailing now := by
  intro bot changed hbot h
  obtain ⟨_, _, _, rfl⟩ := addMailing_ok_iff.1 h
  have hmailings : ∀ m ∈ bot.mailings ++ [mailing], Plain m.name ∧ Plain m.entryKey := by
    intro m hm
    rcases List.mem_append.1 hm with hm | hm
    · exact hbot.document.mailings m hm
    · obtain rfl := List.mem_singleton.1 hm
      exact ⟨hname, hkey⟩
  have hdocument : ScriptDocument.AllPlain
      ⟨bot.script.entries.rows, bot.script.blocks.rows, bot.mailings ++ [mailing]⟩ :=
    ⟨hbot.document.entries, hbot.document.blocks, hmailings⟩
  exact ⟨⟨hbot.name, hbot.token, hdocument, hbot.created, hnow⟩, rfl, rfl, rfl⟩

end Bot

/-- A change may be refused to everyone but the owner. -/
theorem KeepsRow.owned {change : Bot → Except Error Bot} (h : KeepsRow change)
    (owner : UserId) :
    KeepsRow (fun bot => do bot.ensureOwner owner; change bot) := by
  intro bot changed hbot hchanged
  obtain ⟨_, _, hchange⟩ := Outcome.bind_ok_iff.1 hchanged
  exact h bot changed hbot hchange

namespace Participant

variable {p q : Participant} {script : Script}

theorem enter_storable {key : String} {messages : List Message} (hp : p.Storable)
    (h : p.enter script key = .ok (messages, q)) : q.Storable := by
  obtain ⟨_, reached, _, _, _, _, rfl⟩ := enter_ok_iff.1 h
  intro a ha
  exact hp a (Table.mem_filter.1 ha).1

theorem reply_storable {input : String} {t : Transition} (hp : p.Storable)
    (hinput : Plain input) (h : p.reply script input = .ok (t, q)) : q.Storable := by
  obtain ⟨r, hprocess, rfl⟩ := reply_ok_iff.1 h
  rcases process_ok_iff.1 hprocess with ⟨_, rfl, rfl⟩ | ⟨_, b, rest, _, _, _, _, rfl, rfl⟩
  · exact hp
  · cases hmessage : b.isMessage with
    | true =>
      simp only [recordAnswer, takes, hmessage, if_true]
      exact hp
    | false =>
      simp only [recordAnswer, takes, hmessage, Bool.false_eq_true, if_false]
      exact record_storable (p := p.moveTo rest) hp rfl hinput

theorem enter_keepsRows (script : Script) (key : String) :
    KeepsRows fun p => p.enter script key := by
  intro p messages q hp h
  exact ⟨enter_storable hp h, enter_address h⟩

theorem reply_keepsRows (script : Script) {input : String} (hinput : Plain input) :
    KeepsRows fun p => p.reply script input := by
  intro p t q hp h
  exact ⟨reply_storable hp hinput h, reply_address h⟩

/-- Participants that do not wait for a mailing are saved as they are. -/
theorem visit_keepsRows (script : Script) (mailing : Mailing) :
    KeepsRows (mailing.visit script) := by
  intro p outcome q hp h
  rcases Mailing.visit_cases h with rfl | ⟨messages, henter⟩
  · exact ⟨hp, rfl⟩
  · exact ⟨enter_storable hp henter, enter_address henter⟩

end Participant

end ScriptedChat
