import ScriptedChat.Bot
import ScriptedChat.Proofs.Tables

/-!
What making and changing a bot comes to when it succeeds. Its identifier, its owner and the time
of its creation are never changed, and its script is always one that was accepted. A bot that is
taken apart and put together again is the same bot.
-/
namespace ScriptedChat

theorem Script.restore_rows (script : Script) :
    Script.restore script.entries.rows script.blocks.rows = script := by
  rw [restore, Table.ofList_rows, Table.ofList_rows]

namespace Bot

variable {bot changed : Bot} {cycles : CyclePolicy} {now : Time}

theorem create_ok_iff {draft : BotDraft} :
    create draft cycles now = .ok bot ↔
      ¬ Text.isBlank draft.name ∧ ¬ Text.isBlank draft.token ∧
        ∃ script, Script.build draft.entries draft.blocks cycles = .ok script ∧
          bot = ⟨draft.id, draft.owner, draft.name, draft.token, .stopped, script, [], now,
            now⟩ := by
  simp only [create, Outcome.throw_eq, Outcome.error_bind]
  by_cases hname : Text.isBlank draft.name
  · simp [hname]
  · by_cases htoken : Text.isBlank draft.token
    · simp [hname, htoken]
    · rw [if_neg hname, if_neg htoken, Outcome.bind_ok_iff]
      simp only [hname, htoken, Outcome.pure_eq, Except.ok.injEq, eq_comm (a := bot)]
      simp

theorem setScript_ok_iff {entries : List EntryPoint} {blocks : List Block} :
    bot.setScript entries blocks cycles now = .ok changed ↔
      ∃ script, Script.build entries blocks cycles = .ok script ∧
        bot.mailings.forM (checkTargets script) = .ok () ∧
        changed = { bot with script := script, updatedAt := now } := by
  simp only [setScript, Outcome.bind_ok_iff]
  constructor
  · intro h
    obtain ⟨script, hbuild, _, htargets, heq⟩ := h
    exact ⟨script, hbuild, htargets, (Except.ok.inj heq).symm⟩
  · intro h
    obtain ⟨script, hbuild, htargets, rfl⟩ := h
    exact ⟨script, hbuild, (), htargets, rfl⟩

theorem addMailing_ok_iff {mailing : Mailing} :
    bot.addMailing mailing now = .ok changed ↔
      ¬ Text.isBlank mailing.name ∧ bot.mailing? mailing.name = none ∧
        checkTargets bot.script mailing = .ok () ∧
        changed = { bot with mailings := bot.mailings ++ [mailing], updatedAt := now } := by
  simp only [addMailing, Outcome.throw_eq, Outcome.error_bind]
  by_cases hname : Text.isBlank mailing.name
  · simp [hname]
  · cases hold : bot.mailing? mailing.name with
    | some old => simp [hname]
    | none =>
      rw [if_neg hname, if_neg (by simp), Outcome.bind_ok_iff]
      constructor
      · intro h
        obtain ⟨_, htargets, heq⟩ := h
        exact ⟨hname, rfl, htargets, (Except.ok.inj heq).symm⟩
      · intro h
        obtain ⟨_, _, htargets, rfl⟩ := h
        exact ⟨(), htargets, rfl⟩

theorem setScript_id {entries : List EntryPoint} {blocks : List Block}
    (h : bot.setScript entries blocks cycles now = .ok changed) : changed.id = bot.id := by
  obtain ⟨_, _, _, rfl⟩ := setScript_ok_iff.1 h
  rfl

theorem addMailing_id {mailing : Mailing} (h : bot.addMailing mailing now = .ok changed) :
    changed.id = bot.id := by
  obtain ⟨_, _, _, rfl⟩ := addMailing_ok_iff.1 h
  rfl

theorem restored_eq (bot : Bot) : bot.restored = bot := by
  rw [restored, Script.restore_rows]

end Bot

end ScriptedChat
