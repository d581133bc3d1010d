import ScriptedChat.Proofs.Conversation.Steps
import ScriptedChat.Proofs.Engine.Effect

/-!
What a mailing does to the participants. Its audience are the stored participants of the bot
that wait at its state, each of them once. So a mailing is the same as entering for each of them
on its own: the entry of one user neither sees nor changes another, and where it fails the
participant stays as it was. No bot is changed.
-/
namespace ScriptedChat

namespace Participant

/-- A participant after a mailing that found it waiting. -/
def mailed (bot : Bot) (mailing : Mailing) (p : Participant) : Participant :=
  match p.enter bot.script mailing.entryKey with
  | .ok (_, q) => q
  | .error _ => p

end Participant

namespace Memory

theorem get?_saveParticipant (m : Memory) (p : Participant) (address : Address) :
    (m.saveParticipant p).participants.get? address =
      if p.address = address then some p else m.participants.get? address := by
  split
  · rename_i h
    subst h
    exact Table.get?_insert_self _ p
  · rename_i h
    exact Table.get?_insert_of_ne _ h

/-- Saving a participant again as it is stored changes nothing. -/
theorem saveParticipant_self {m : Memory} {p : Participant}
    (h : m.participants.get? p.address = some p) : m.saveParticipant p = m := by
  have hsame : m.participants.insert p = m.participants := by
    refine Table.ext_get? fun address => ?_
    by_cases heq : p.address = address
    · subst heq
      rw [Table.get?_insert_self, h]
    · exact Table.get?_insert_of_ne _ heq
  rw [saveParticipant, hsame]

end Memory

namespace Engine

variable {π : Type} {bot : Bot} {mailing : Mailing}

/-- A mailing to one user who waits for it changes the participant of that user only. -/
theorem mailUser_eq (publisher : Publisher π) {world : Memory × π} {user : UserId} {p : Participant}
    (hp : world.1.participants.get? ⟨bot.id, user⟩ = some p)
    (hwaits : p.state = mailing.requiredState) :
    (mailUser publisher bot mailing world user).2.1 =
      world.1.saveParticipant (p.mailed bot mailing) := by
  have hat : world.1.participantAt ⟨bot.id, user⟩ = p := by simp [Memory.participantAt, hp]
  have haddress : p.address = ⟨bot.id, user⟩ := Table.key_of_get? hp
  simp only [mailUser, hat, hwaits, if_true, Participant.mailed]
  cases p.enter bot.script mailing.entryKey with
  | error e =>
    have hp' : world.1.participants.get? p.address = some p := by rw [haddress, hp]
    exact (Memory.saveParticipant_self hp').symm
  | ok outcome => rfl

theorem mailed_address (bot : Bot) (mailing : Mailing) (p : Participant) :
    (p.mailed bot mailing).address = p.address := by
  unfold Participant.mailed
  split
  · rename_i h
    exact Participant.enter_address h
  · rfl

/-- The entry of one user leaves the others as they were. -/
theorem mailUser_others (publisher : Publisher π) {world : Memory × π} {user : UserId}
    {p : Participant} (hp : world.1.participants.get? ⟨bot.id, user⟩ = some p)
    (hwaits : p.state = mailing.requiredState) {address : Address}
    (hother : address ≠ ⟨bot.id, user⟩) :
    (mailUser publisher bot mailing world user).2.1.participants.get? address =
      world.1.participants.get? address := by
  have haddress : (p.mailed bot mailing).address = ⟨bot.id, user⟩ := by
    rw [mailed_address]
    exact Table.key_of_get? hp
  rw [mailUser_eq publisher hp hwaits, Memory.get?_saveParticipant, haddress,
    if_neg (Ne.symm hother)]

/-- Once one user was mailed, those who come later still wait. -/
theorem mailUser_waits (publisher : Publisher π) {world : Memory × π} {user : UserId}
    {rest : List UserId} (huser : user ∉ rest)
    (hwaits : ∀ other ∈ user :: rest, ∃ p, world.1.participants.get? ⟨bot.id, other⟩ = some p ∧
      p.state = mailing.requiredState) :
    ∀ other ∈ rest, ∃ p, (mailUser publisher bot mailing world user).2.1.participants.get?
      ⟨bot.id, other⟩ = some p ∧ p.state = mailing.requiredState := by
  intro other hmem
  obtain ⟨p, hp, hstate⟩ := hwaits user List.mem_cons_self
  have hne : (⟨bot.id, other⟩ : Address) ≠ ⟨bot.id, user⟩ := by
    intro heq
    cases heq
    exact huser hmem
  rw [mailUser_others publisher hp hstate hne]
  exact hwaits other (List.mem_cons_of_mem _ hmem)

/-- A mailing to different users who wait for it. -/
theorem mailAll_eq (publisher : Publisher π) (users : List UserId) (n : Nat)
    (world : Memory × π) (hnodup : users.Nodup)
    (hwaits : ∀ user ∈ users, ∃ p, world.1.participants.get? ⟨bot.id, user⟩ = some p ∧
      p.state = mailing.requiredState) :
    (mailAll publisher bot mailing users n world).2.1.bots = world.1.bots ∧
    ∀ address, (mailAll publisher bot mailing users n world).2.1.participants.get? address =
      if address.bot = bot.id ∧ address.user ∈ users then
        (world.1.participants.get? address).map (Participant.mailed bot mailing)
      else world.1.participants.get? address := by
  induction users generalizing n world with
  | nil => simp [mailAll]
  | cons user rest ih =>
    obtain ⟨huser, hrest⟩ := List.nodup_cons.1 hnodup
    obtain ⟨p, hp, hstate⟩ := hwaits user List.mem_cons_self
    have haddress : (p.mailed bot mailing).address = ⟨bot.id, user⟩ := by
      rw [mailed_address]
      exact Table.key_of_get? hp
    have hfirst := mailUser_eq publisher hp hstate
    have hother : ∀ address : Address, address ≠ ⟨bot.id, user⟩ →
        (mailUser publisher bot mailing world user).2.1.participants.get? address =
          world.1.participants.get? address :=
      fun _ => mailUser_others publisher hp hstate
    have hwaits' := mailUser_waits publisher huser hwaits
    generalize hnext : mailUser publisher bot mailing world user = next at hfirst hother hwaits'
    obtain ⟨hbots, hget⟩ := ih (if next.1 then n + 1 else n) next.2 hrest hwaits'
    simp only [mailAll, hnext]
    refine ⟨by rw [hbots, hfirst]; rfl, ?_⟩
    intro address
    rw [hget]
    by_cases heq : address = ⟨bot.id, user⟩
    · subst heq
      simp [huser, hfirst, Memory.get?_saveParticipant, haddress, hp]
    · rw [hother _ heq]
      have hiff : (address.bot = bot.id ∧ address.user ∈ user :: rest) ↔
          address.bot = bot.id ∧ address.user ∈ rest := by
        rw [List.mem_cons]
        constructor
        · intro h
          refine ⟨h.1, h.2.resolve_left ?_⟩
          intro huser'
          exact heq (by cases address; cases h.1; cases huser'; rfl)
        · intro h
          exact ⟨h.1, Or.inr h.2⟩
      simp only [hiff]

theorem mem_audience {m : Memory} {id : Uuid} {s : State} {user : UserId} :
    user ∈ audience m id s ↔
      ∃ p, m.participants.get? ⟨id, user⟩ = some p ∧ p.state = s := by
  simp only [audience, List.mem_map, List.mem_filter, decide_eq_true_eq, Table.get?_eq_some_iff]
  constructor
  · intro h
    obtain ⟨p, ⟨⟨hp, hbot⟩, hstate⟩, huser⟩ := h
    exact ⟨p, ⟨hp, by rw [← hbot, ← huser]⟩, hstate⟩
  · intro h
    obtain ⟨p, ⟨hp, haddress⟩, hstate⟩ := h
    exact ⟨p, ⟨⟨hp, by rw [haddress]⟩, hstate⟩, by rw [haddress]⟩

theorem audience_nodup (m : Memory) (id : Uuid) (s : State) : (audience m id s).Nodup := by
  refine List.pairwise_map.2 (((m.listed_ascending id).filter _).imp ?_)
  intro p q hlt heq
  rw [heq] at hlt
  exact Int64.lt_irrefl hlt

/-- A mailing takes those who wait at its state to its entry point, and nobody else. -/
theorem mailing_eq (publisher : Publisher π) (mailing : Mailing) (m : Memory) (w : π)
    {id : Uuid} (hid : bot.id = id) :
    (mailAll publisher bot mailing (audience m id mailing.requiredState) 0 (m, w)).2.1.bots =
      m.bots ∧
    ∀ address, (mailAll publisher bot mailing (audience m id mailing.requiredState) 0
        (m, w)).2.1.participants.get? address =
      if address.bot = id then
        (m.participants.get? address).map fun p =>
          if p.state = mailing.requiredState then p.mailed bot mailing else p
      else m.participants.get? address := by
  subst hid
  have hwaits : ∀ user ∈ audience m bot.id mailing.requiredState,
      ∃ p, m.participants.get? ⟨bot.id, user⟩ = some p ∧ p.state = mailing.requiredState :=
    fun user huser => mem_audience.1 huser
  obtain ⟨hbots, hget⟩ := mailAll_eq publisher _ 0 (m, w) (audience_nodup m _ _) hwaits
  refine ⟨hbots, fun address => ?_⟩
  simp only [hget, mem_audience]
  by_cases hbot : address.bot = bot.id
  · have heq : (⟨bot.id, address.user⟩ : Address) = address := by rw [← hbot]
    simp only [hbot, true_and, if_true, heq]
    cases hp : m.participants.get? address with
    | none => simp
    | some p => by_cases hstate : p.state = mailing.requiredState <;> simp [hstate]
  · simp [hbot]

end Engine

end ScriptedChat
